/-
Reviews and rulings as tasks that run from one awaited answer to the next:
`CodingAiReviewService.review` with its `persist` and `fail`, `CodingInstructorService.decide`, and
the broadcasts of `CodingLiveService` that both end in. A transaction is one step. What follows an
answer up to the next call runs in the same step.

`broadcastSubmissionUpdate` waits for two broadcasts at once; the board of the class is a task of
its own, and the staff's card, which is read and emitted only, is left out: the answer to the wait
may come at any time, or be an error. What the repository or the archive holds is not looked at
either, only whether it could be read.
-/
import Mathlib.Data.List.Sort
import Mathlib.Data.String.Basic
import Livetich.Coding.Model
import Livetich.Js.Number
import Livetich.Lib.TransSys

namespace Livetich.Coding

open TransSys

/-! ## The board of the class -/

/-- `boardScore`. -/
def boardScore (finalScore provisionalScore : Option Nat) (showAiToStudents : Bool) : Option Nat :=
  match finalScore with
  | some score => some score
  | none => if showAiToStudents then provisionalScore else none

structure CodingPointEntry where
  studentId : UserId
  name : String
  /-- The status of the latest attempt; `none` for `CODING`. -/
  status : Option CodingSubmissionStatus
  score : Option Nat
  deriving DecidableEq

/-- A `coding:points` message to a session room. -/
structure CodingPoints where
  sessionId : SessionId
  assignmentId : AssignmentId
  entries : List CodingPointEntry
  deriving DecidableEq

/-- Highest attempt first. -/
def attemptDesc (a b : SubmissionId × CodingSubmission) : Prop := b.2.attemptNumber ≤ a.2.attemptNumber

instance : DecidableRel attemptDesc :=
  fun a b => inferInstanceAs (Decidable (b.2.attemptNumber ≤ a.2.attemptNumber))

def byName (a b : Student) : Prop := a.name ≤ b.name

instance : DecidableRel byName := fun a b => inferInstanceAs (Decidable (a.name ≤ b.name))

/-- The students enrolled in a course, by name. -/
def roster (db : Db) (courseId : CourseId) : List Student :=
  ((db.enrollments.filter (·.courseId == courseId)).filterMap fun e =>
    db.students.find? (·.id == e.studentId)).insertionSort byName

/-- The attempts at an assignment, highest first. -/
def attempts (db : Db) (assignmentId : AssignmentId) : List (SubmissionId × CodingSubmission) :=
  (db.submissions.entries.filter (·.2.assignmentId == assignmentId)).insertionSort attemptDesc

/-- `y.score ?? -1` at most `x.score ?? -1`. -/
def byScore (x y : CodingPointEntry) : Prop :=
  ((y.score.map Int.ofNat).getD (-1)) ≤ ((x.score.map Int.ofNat).getD (-1))

instance : DecidableRel byScore :=
  fun x y => inferInstanceAs (Decidable (((y.score.map Int.ofNat).getD (-1)) ≤ ((x.score.map Int.ofNat).getD (-1))))

/-- A student's entry, from the latest attempt if there is one. -/
def pointEntry (showAiToStudents : Bool) (student : Student) (s : Option CodingSubmission) : CodingPointEntry where
  studentId := student.id
  name := student.name
  status := s.map (·.status)
  score := s.bind fun s => boardScore s.finalScore s.provisionalScore showAiToStudents

/-- The standings `broadcastPoints` works out, highest score first. -/
def standings (db : Db) (assignmentId : AssignmentId) (courseId : CourseId) (showAiToStudents : Bool) :
    List CodingPointEntry :=
  ((roster db courseId).map fun student => pointEntry showAiToStudents student
    (((attempts db assignmentId).find? (·.2.studentId == student.id)).map (·.2))).insertionSort byScore

/-! ## State -/

/-- A task in flight, by the call it waits for; `x` is the submission it is about. -/
inductive Task
  /-- `review` waits for the submission with its assignment. -/
  | load (x : SubmissionId)
  | create (x : SubmissionId) (requirements : List CodingRequirement)
  /-- `review` has created row `r` and sets the submission under review. -/
  | start (x : SubmissionId) (r : ReviewId) (requirements : List CodingRequirement)
  | render (x : SubmissionId) (r : ReviewId) (requirements : List CodingRequirement)
  | readText (x : SubmissionId) (r : ReviewId) (requirements : List CodingRequirement)
  | callGemini (x : SubmissionId) (r : ReviewId) (requirements : List CodingRequirement)
  /-- The transaction of `persist`. -/
  | persist (x : SubmissionId) (r : ReviewId) (requirements : List CodingRequirement) (out : ReviewOutput)
  /-- The transaction of `fail`. -/
  | fail (x : SubmissionId) (r : ReviewId) (message : String)
  /-- `broadcastSubmissionUpdate` reads the row; inside `persist`, an error is caught and review
  row `r` failed. -/
  | refresh (x : SubmissionId) (r : Option ReviewId)
  | refreshing (x : SubmissionId) (r : Option ReviewId)
  /-- `broadcastPoints` waits for the assignment, and then for the roster and the attempts. -/
  | points (assignmentId : AssignmentId)
  | board (assignmentId : AssignmentId) (sessionId : SessionId) (courseId : CourseId) (showAiToStudents : Bool)
  /-- `assertManagesSubmission` of `decide`. -/
  | decideLoad (x : SubmissionId) (userId : UserId) (dto : DecisionDto)
  | decideManage (x : SubmissionId) (userId : UserId) (dto : DecisionDto)
  /-- The transaction of `decide`. -/
  | decide (x : SubmissionId) (userId : UserId) (dto : DecisionDto)
  deriving DecidableEq

structure State where
  db : Db
  /-- `GEMINI_API_KEY` is set. -/
  gemini : Bool
  /-- The `coding:points` messages emitted, oldest first. -/
  emitted : List CodingPoints
  /-- The rulings written, newest first; no handler reads this. -/
  rulings : List (SubmissionId × CodingSubmissionStatus)
  tasks : Pool Task

inductive Event
  /-- The insert of `submit` or `submitCommit`. -/
  | submit (x : SubmissionId) (row : CodingSubmission) (files : List CodingSubmissionFile)
  /-- The insert of `addFeedback`. -/
  | addFeedback (row : CodingFeedback)
  /-- `maybeAutoReview` or `requestReview` starts a review and does not wait for it. -/
  | enqueue (i : Nat) (x : SubmissionId)
  | decide (i : Nat) (x : SubmissionId) (userId : UserId) (dto : DecisionDto)
  /-- `broadcastTask` seeds the board of a launched task. -/
  | launch (i : Nat) (assignmentId : AssignmentId)
  /-- The call task `i` waits for takes effect, and the task goes on. -/
  | resume (i : Nat)
  /-- The review row of task `i` is created. -/
  | created (i : Nat) (r : ReviewId)
  /-- `renderForSubmission` answers task `i`: the submission is backed by a commit, or not. -/
  | rendered (i : Nat) (fromCommit : Bool)
  /-- The AI model answers task `i`. -/
  | answered (i : Nat) (out : ReviewOutput)
  /-- `broadcastSubmissionUpdate` of task `i` has the row; the board of the class is task `j`. -/
  | refreshed (i j : Nat)
  /-- The transaction of `decide` commits. -/
  | decided (i : Nat) (now : Int)
  /-- The call task `i` waits for fails. -/
  | throws (i : Nat) (message : String)
  deriving DecidableEq

/-! ## Steps -/

namespace State

/-- Task `i` goes on as `t`, or ends. -/
def goto (s : State) (i : Nat) (t : Option Task) : State := { s with tasks := s.tasks.put i t }

/-- The insert of a submission with its files. -/
def submit (s : State) (x : SubmissionId) (row : CodingSubmission) (files : List CodingSubmissionFile) : State :=
  { s with db := { s.db with
      submissions := s.db.submissions.insert x row
      files := s.db.files ++ files.map (x, ·) } }

/-- `emitToSession`. -/
def emit (s : State) (message : CodingPoints) : State := { s with emitted := s.emitted ++ [message] }

def setStatus (s : State) (x : SubmissionId) (status : CodingSubmissionStatus) : State :=
  { s with db := { s.db with submissions := s.db.submissions.modify x fun row => { row with status := status } } }

/-- The insert of the review row. -/
def create (s : State) (x : SubmissionId) (r : ReviewId) : State :=
  { s with db := { s.db with
      reviews := s.db.reviews.insert r ⟨x, .running, none, none, none, none, [], []⟩ } }

/-- The two updates of `persist`. -/
def persist (s : State) (x : SubmissionId) (r : ReviewId) (requirements : List CodingRequirement)
    (out : ReviewOutput) : State :=
  { s with db := { s.db with
      reviews := s.db.reviews.modify r fun row => row.persisted requirements out
      submissions := s.db.submissions.modify x fun row =>
        { row with provisionalScore := some out.overallScore, status := persistedStatus out } } }

/-- The two updates of `fail`. -/
def fail (s : State) (x : SubmissionId) (r : ReviewId) (message : String) : State :=
  { s with db := { s.db with
      reviews := s.db.reviews.modify r fun row =>
        { row with status := .error, error := some (cut 1000 message) }
      submissions := s.db.submissions.modify x fun row => { row with status := .needsReview } } }

/-- The inserts and updates of `decide`, in the state and in the record of rulings. -/
def decide (s : State) (x : SubmissionId) (userId : UserId) (dto : DecisionDto) (now : Int) : State :=
  let feedback := (dto.feedback.map fun text => String.ofList (Js.trim text.toList)).filter (· ≠ "")
  { s with
    db := { s.db with
      feedback := s.db.feedback ++ feedback.toList.map fun body =>
        { submissionId := x, authorId := userId, body := body, filePath := none, line := none
          visibleToStudent := true }
      submissions := s.db.submissions.modify x fun row => row.decided dto userId now }
    rulings := (x, dto.decision.status) :: s.rulings }

end State

/-- The next step of task `t`, numbered `i`, when nothing but the call's effect matters. -/
def resume (s : State) (i : Nat) : Task → Option State
  | .load x => some (s.goto i ((s.db.submissions.get x).bind fun row =>
      (s.db.assignments.get row.assignmentId).map fun a => .create x a.requirements))
  | .start x r requirements => some ((s.setStatus x .underReview).goto i
      (some (if s.gemini then .render x r requirements else .fail x r "AI review is not configured")))
  | .readText x r requirements => some (s.goto i (some (.callGemini x r requirements)))
  | .persist x r requirements out => some ((s.persist x r requirements out).goto i (some (.refresh x (some r))))
  | .fail x r message => some ((s.fail x r message).goto i (some (.refresh x none)))
  | .refreshing _ _ => some (s.goto i none)
  | .points a => some (s.goto i ((s.db.assignments.get a).bind fun row => row.sessionId.map fun sessionId =>
      .board a sessionId row.courseId row.showAiToStudents))
  | .board a sessionId courseId showAi =>
    some ((s.emit ⟨sessionId, a, standings s.db a courseId showAi⟩).goto i none)
  | .decideLoad x userId dto =>
    some (s.goto i ((s.db.submissions.get x).map fun _ => .decideManage x userId dto))
  | .decideManage x userId dto => some (s.goto i (some (.decide x userId dto)))
  | _ => none

/-- What a task goes on to when its call fails: inside the `try` of `review`, to `fail`. -/
def Task.caught (message : String) : Task → Option Task
  | .render x r _ | .readText x r _ | .callGemini x r _ | .persist x r _ _ => some (.fail x r message)
  | .refresh x (some r) | .refreshing x (some r) => some (.fail x r message)
  | _ => none

/-- A row as `submit` and `submitCommit` create it. -/
def fresh (row : CodingSubmission) : Bool :=
  row.status == .submitted && row.provisionalScore.isNone && row.finalScore.isNone && row.finalDecision.isNone &&
    row.reviewedById.isNone && row.reviewedAt.isNone

def step (s : State) : Event → Option State
  | .submit x row files =>
    if s.db.submissions.get x = none ∧ fresh row = true then some (s.submit x row files) else none
  | .addFeedback row => some { s with db := { s.db with feedback := s.db.feedback ++ [row] } }
  | .enqueue i x => if s.tasks.get i = none then some (s.goto i (some (.load x))) else none
  | .decide i x userId dto =>
    if s.tasks.get i = none then some (s.goto i (some (.decideLoad x userId dto))) else none
  | .launch i a => if s.tasks.get i = none then some (s.goto i (some (.points a))) else none
  | .resume i => (s.tasks.get i).bind (resume s i)
  | .created i r => match s.tasks.get i with
    | some (.create x requirements) =>
      if s.db.reviews.get r = none then
        some ((s.create x r).goto i (some (.start x r requirements)))
      else none
    | _ => none
  | .rendered i fromCommit => match s.tasks.get i with
    | some (.render x r requirements) => some (s.goto i (some
        (if fromCommit then .callGemini x r requirements else .readText x r requirements)))
    | _ => none
  | .answered i out => match s.tasks.get i with
    | some (.callGemini x r requirements) => some (s.goto i (some (.persist x r requirements out)))
    | _ => none
  | .refreshed i j => match s.tasks.get i with
    | some (.refresh x r) =>
      if s.tasks.get j = none then
        match s.db.submissions.get x with
        | some row => some ((s.goto i (some (.refreshing x r))).goto j (some (.points row.assignmentId)))
        | none => some (s.goto i none)
      else none
    | _ => none
  | .decided i now => match s.tasks.get i with
    | some (.decide x userId dto) =>
      if (s.db.submissions.get x).isSome then
        some ((s.decide x userId dto now).goto i (some (.refresh x none)))
      else none
    | _ => none
  | .throws i message => (s.tasks.get i).map fun t => s.goto i (t.caught message)

/-! ## What a step takes -/

section Inversion

variable {s s' : State} {i : Nat}

theorem step_created {r : ReviewId} (h : step s (.created i r) = some s') :
    ∃ x requirements, s.tasks.get i = some (.create x requirements) ∧ s.db.reviews.get r = none ∧
      s' = (s.create x r).goto i (some (.start x r requirements)) := by
  unfold step at h
  dsimp only at h
  split at h
  · rename_i x requirements hi
    obtain ⟨hr, hs⟩ := Option.ite_none_right_eq_some.1 h
    exact ⟨x, requirements, hi, hr, (Option.some.inj hs).symm⟩
  · cases h

theorem step_rendered {fromCommit : Bool} (h : step s (.rendered i fromCommit) = some s') :
    ∃ x r requirements, s.tasks.get i = some (.render x r requirements) ∧
      s' = s.goto i (some (if fromCommit then .callGemini x r requirements else .readText x r requirements)) := by
  unfold step at h
  dsimp only at h
  split at h
  · rename_i x r requirements hi
    exact ⟨x, r, requirements, hi, (Option.some.inj h).symm⟩
  · cases h

theorem step_answered {out : ReviewOutput} (h : step s (.answered i out) = some s') :
    ∃ x r requirements, s.tasks.get i = some (.callGemini x r requirements) ∧
      s' = s.goto i (some (.persist x r requirements out)) := by
  unfold step at h
  dsimp only at h
  split at h
  · rename_i x r requirements hi
    exact ⟨x, r, requirements, hi, (Option.some.inj h).symm⟩
  · cases h

theorem step_refreshed {j : Nat} (h : step s (.refreshed i j) = some s') :
    ∃ x r, s.tasks.get i = some (.refresh x r) ∧
      ((∃ row, s.db.submissions.get x = some row ∧
          s' = (s.goto i (some (.refreshing x r))).goto j (some (.points row.assignmentId))) ∨
        (s.db.submissions.get x = none ∧ s' = s.goto i none)) := by
  unfold step at h
  dsimp only at h
  split at h
  · rename_i x r hi
    obtain ⟨-, hs⟩ := Option.ite_none_right_eq_some.1 h
    refine ⟨x, r, hi, ?_⟩
    split at hs
    · rename_i row hrow
      exact .inl ⟨row, hrow, (Option.some.inj hs).symm⟩
    · rename_i hrow
      exact .inr ⟨hrow, (Option.some.inj hs).symm⟩
  · cases h

theorem step_decided {now : Int} (h : step s (.decided i now) = some s') :
    ∃ x userId dto row, s.tasks.get i = some (.decide x userId dto) ∧ s.db.submissions.get x = some row ∧
      s' = (s.decide x userId dto now).goto i (some (.refresh x none)) := by
  unfold step at h
  dsimp only at h
  split at h
  · rename_i x userId dto hi
    obtain ⟨hrow, hs⟩ := Option.ite_none_right_eq_some.1 h
    obtain ⟨row, hrow⟩ := Option.isSome_iff_exists.1 hrow
    exact ⟨x, userId, dto, row, hi, hrow, (Option.some.inj hs).symm⟩
  · cases h

end Inversion

/-- A class with its assignments, roster and sessions, before anything is handed in. -/
def init (assignments : Lib.Table AssignmentId CodingAssignment) (students : List Student)
    (enrollments : List Enrollment) (courses : List (CourseId × String)) (sessions : List (SessionId × SessionStatus))
    (gemini : Bool) : State where
  db := ⟨assignments, Lib.Table.empty, [], Lib.Table.empty, [], students, enrollments, courses, sessions⟩
  gemini := gemini
  emitted := []
  rulings := []
  tasks := Pool.empty

end Livetich.Coding
