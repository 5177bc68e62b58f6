/-
Timed exams: `ExamsService.startAttempt`, `submit` and `updateExam` as steps between database calls, over the exams,
their questions, the attempts and the stored answers. A nested write and a transaction are one step each. Exams are
created in one step, with their questions.
-/
import Livetich.Js.Number
import Livetich.Lib.Table
import Livetich.Lib.TransSys
import Livetich.Model

namespace Livetich.Exams

open TransSys Livetich.Lib

abbrev ExamId := String
abbrev QuestionId := Nat
abbrev AttemptId := Nat

/-! ## Rows and requests -/

structure Exam where
  courseId : CourseId
  title : String
  durationMinutes : Nat
  active : Bool
  deriving DecidableEq

structure ExamQuestion where
  examId : ExamId
  body : String
  options : List String
  correctIndex : Nat
  topic : Option String
  order : Nat
  deriving DecidableEq

structure ExamAttempt where
  examId : ExamId
  studentId : UserId
  /-- Milliseconds, as are all times here. -/
  startedAt : Nat
  submittedAt : Option Nat
  score : Option Int
  deriving DecidableEq

structure ExamAnswer where
  attemptId : AttemptId
  questionId : QuestionId
  chosenIndex : Nat
  deriving DecidableEq

structure ExamQuestionDto where
  body : String
  options : List String
  correctIndex : Nat
  topic : Option String
  deriving DecidableEq

/-- `@ArrayMinSize(1)`: questions that are sent are some. -/
structure UpdateExamDto where
  title : Option String
  durationMinutes : Option Nat
  questions : Option (List ExamQuestionDto)
  nonempty : ∀ qs ∈ questions, qs ≠ []
  deriving DecidableEq

structure ExamAnswerDto where
  questionId : QuestionId
  chosenIndex : Nat
  deriving DecidableEq

/-- Who is enrolled and who may manage a course. -/
structure Access where
  enrolled : List (CourseId × UserId)
  managers : List (CourseId × UserId)
  deriving DecidableEq

/-! ## Scoring -/

/-- The answers to real questions; of several to one question the last. -/
def chosenOf (questions : List (QuestionId × ExamQuestion)) (answers : List ExamAnswerDto) : List (QuestionId × Nat) :=
  questions.filterMap fun q =>
    ((answers.filter (·.questionId == q.1)).getLast?).map fun a => (q.1, a.chosenIndex)

def correctOf (questions : List (QuestionId × ExamQuestion)) (chosen : List (QuestionId × Nat)) : Nat :=
  questions.countP fun q => chosen.contains (q.1, q.2.correctIndex)

/-- `Math.round((correct / total) * 100)`, and zero of no questions. -/
def percent (correct total : Nat) : Int :=
  if total = 0 then 0
  else match Js.Number.round ((correct : Rat) / total) with
    | .finite q => ((Js.mathRound (.round (q * 100))).toInteger).getD 0
    | _ => 0

-- 23 / 40 is a little less than 0.575 as a double
example : percent 23 40 = 57 ∧ percent 1 8 = 13 ∧ percent 2 2 = 100 := by decide +kernel

def graceMs : Nat := 60000

/-- The attempt is past its deadline and the grace that a late submit is given. -/
def expired (startedAt durationMinutes now : Nat) : Bool := startedAt + durationMinutes * 60000 + graceMs < now

/-! ## Calls between their awaits -/

inductive Task
  /-- `startAttempt` reads the exam with its questions. -/
  | exam (user : JwtPayload) (examId : ExamId)
  /-- `assertEnrolled`. -/
  | access (user : JwtPayload) (examId : ExamId) (exam : Exam)
  /-- Is there an attempt to resume? -/
  | resumable (user : JwtPayload) (examId : ExamId)
  /-- Is there an attempt that was submitted? -/
  | alreadySat (user : JwtPayload) (examId : ExamId)
  | create (user : JwtPayload) (examId : ExamId)
  /-- `submit` reads the attempt with its exam and the questions. -/
  | attempt (user : JwtPayload) (attemptId : AttemptId) (answers : List ExamAnswerDto)
  | transaction (attemptId : AttemptId) (chosen : List (QuestionId × Nat)) (score : Int) (submittedAt : Nat)
  /-- `assertCanManageCourse` of `updateExam`. -/
  | manage (user : JwtPayload) (courseId : CourseId) (examId : ExamId) (dto : UpdateExamDto)
  /-- `updateExam` reads the exam with the number of its attempts. -/
  | find (courseId : CourseId) (examId : ExamId) (dto : UpdateExamDto)
  | deleteMany (examId : ExamId) (dto : UpdateExamDto)
  | update (examId : ExamId) (dto : UpdateExamDto)
  deriving DecidableEq

/-- How a call goes on. -/
inductive After
  | next (t : Task)
  | done
  | failed
  deriving DecidableEq

def After.task : After → Option Task
  | .next t => some t
  | _ => none

structure State where
  exams : Table ExamId Exam
  questions : Table QuestionId ExamQuestion
  attempts : Table AttemptId ExamAttempt
  answers : List ExamAnswer
  /-- The id of the next row; ids are never handed out twice. -/
  nextId : Nat
  access : Access
  calls : Pool Task
  nextCall : Nat
  /-- The calls that failed, and those that have changed an exam or its questions; no call reads these. -/
  failed : List Nat
  wrote : List Nat

def init (access : Access) : State where
  exams := Table.empty
  questions := Table.empty
  attempts := Table.empty
  answers := []
  nextId := 0
  access := access
  calls := Pool.empty
  nextCall := 0
  failed := []
  wrote := []

/-! ## Reads and writes -/

def State.questionsOf (s : State) (examId : ExamId) : List (QuestionId × ExamQuestion) :=
  s.questions.entries.filter (·.2.examId == examId)

def State.answersOf (s : State) (attemptId : AttemptId) : List ExamAnswer :=
  s.answers.filter (·.attemptId == attemptId)

def ExamAttempt.of (row : ExamAttempt) (examId : ExamId) (studentId : UserId) : Bool :=
  row.examId == examId && row.studentId == studentId

/-- Some attempt of the student at the exam is submitted. -/
def State.sat (s : State) (examId : ExamId) (studentId : UserId) : Bool :=
  s.attempts.entries.any fun e => e.2.of examId studentId && e.2.submittedAt.isSome

def State.attempted (s : State) (examId : ExamId) : Bool := s.attempts.entries.any fun e => e.2.examId == examId

/-- New questions in the order they are given. -/
def addQuestions (examId : ExamId) : Table QuestionId ExamQuestion → QuestionId → Nat → List ExamQuestionDto →
    Table QuestionId ExamQuestion
  | t, _, _, [] => t
  | t, id, order, q :: qs =>
    let row := ⟨examId, q.body, q.options, q.correctIndex, q.topic, order⟩
    addQuestions examId (t.insert id row) (id + 1) (order + 1) qs

/-- The transaction of `submit`; a question that is gone breaks a foreign key and rolls it back. -/
def State.submit (s : State) (attemptId : AttemptId) (chosen : List (QuestionId × Nat)) (score : Int)
    (submittedAt : Nat) : Option State :=
  if chosen.any fun c => (s.questions.get c.1).isNone then none
  else some { s with
    answers := (s.answers.filter (·.attemptId != attemptId)) ++ chosen.map fun c => ⟨attemptId, c.1, c.2⟩
    attempts := s.attempts.modify attemptId fun row =>
      { row with submittedAt := some submittedAt, score := some score } }

/-- `examQuestion.deleteMany`; an answer to one of the questions keeps it from being deleted. -/
def State.deleteQuestions (s : State) (examId : ExamId) : Option State :=
  if s.answers.any fun a => (s.questions.get a.questionId).any (·.examId == examId) then none
  else some { s with questions := s.questions.filter fun _ q => q.examId != examId }

/-- `exam.update` with the questions it creates. -/
def State.update (s : State) (examId : ExamId) (dto : UpdateExamDto) : State :=
  let qs := dto.questions.getD []
  { s with
    exams := s.exams.modify examId fun e =>
      { e with title := dto.title.getD e.title, durationMinutes := dto.durationMinutes.getD e.durationMinutes }
    questions := addQuestions examId s.questions s.nextId 0 qs
    nextId := s.nextId + qs.length }

/-- One database call of a call, with the code up to the next. -/
def act (s : State) (now : Nat) : Task → State × After
  | .exam user examId => match s.exams.get examId with
    | some exam => if exam.active then (s, .next (.access user examId exam)) else (s, .failed)
    | none => (s, .failed)
  | .access user examId exam =>
    let among := if user.role = .student then s.access.enrolled else s.access.managers
    if among.contains (exam.courseId, user.sub) then (s, .next (.resumable user examId)) else (s, .failed)
  | .resumable user examId =>
    if s.attempts.entries.any fun e => e.2.of examId user.sub && e.2.submittedAt.isNone then (s, .done)
    else (s, .next (.alreadySat user examId))
  | .alreadySat user examId =>
    if s.sat examId user.sub then (s, .failed) else (s, .next (.create user examId))
  | .create user examId =>
    -- the foreign key of the attempt
    if (s.exams.get examId).isNone then (s, .failed)
    else ({ s with
      attempts := s.attempts.insert s.nextId ⟨examId, user.sub, now, none, none⟩
      nextId := s.nextId + 1 }, .done)
  | .attempt user attemptId answers => match s.attempts.get attemptId with
    | none => (s, .failed)
    | some row => match s.exams.get row.examId with
      | none => (s, .failed)
      | some exam =>
        if row.studentId ≠ user.sub ∨ row.submittedAt.isSome then (s, .failed)
        else
          let questions := s.questionsOf row.examId
          let chosen := chosenOf questions answers
          if expired row.startedAt exam.durationMinutes now then (s, .next (.transaction attemptId [] 0 now))
          else
            let score := percent (correctOf questions chosen) questions.length
            (s, .next (.transaction attemptId chosen score now))
  | .transaction attemptId chosen score submittedAt => match s.submit attemptId chosen score submittedAt with
    | none => (s, .failed)
    | some s' => (s', .done)
  | .manage user courseId examId dto =>
    if s.access.managers.contains (courseId, user.sub) then (s, .next (.find courseId examId dto)) else (s, .failed)
  | .find courseId examId dto => match s.exams.get examId with
    | none => (s, .failed)
    | some exam =>
      if exam.courseId ≠ courseId ∨ ¬ exam.active then (s, .failed)
      else match dto.questions with
        | none => (s, .next (.update examId dto))
        | some qs =>
          if s.attempted examId ∨ ¬ qs.all (fun q => q.correctIndex < q.options.length) then (s, .failed)
          else (s, .next (.deleteMany examId dto))
  | .deleteMany examId dto => match s.deleteQuestions examId with
    | none => (s, .failed)
    | some s' => (s', .next (.update examId dto))
  | .update examId dto => (s.update examId dto, .done)

/-! ## Steps -/

inductive Event
  /-- `createExam`: an exam with questions, under an id of its own. -/
  | createExam (examId : ExamId) (exam : Exam) (questions : List ExamQuestionDto)
  | startAttempt (user : JwtPayload) (examId : ExamId)
  | submit (user : JwtPayload) (attemptId : AttemptId) (answers : List ExamAnswerDto)
  | updateExam (user : JwtPayload) (courseId : CourseId) (examId : ExamId) (dto : UpdateExamDto)
  /-- The pending database call of call `i` is answered, at time `now`. -/
  | resume (i now : Nat)
  /-- The pending database call of call `i` fails and the call with it: nothing is written. -/
  | fail (i : Nat)
  | change (access : Access)

/-- The title, the duration and the questions of every exam. -/
def State.contents (s : State) : List (ExamId × Exam) × List (QuestionId × ExamQuestion) :=
  (s.exams.entries, s.questions.entries)

def State.begin (s : State) (t : Task) : State :=
  { s with calls := s.calls.put s.nextCall (some t), nextCall := s.nextCall + 1 }

/-- The call ends or goes on, and is noted for what it has come to. -/
def State.settle (s : State) (i : Nat) (r : State × After) : State :=
  { r.1 with
    calls := r.1.calls.put i r.2.task
    failed := if r.2 = .failed then i :: s.failed else s.failed
    wrote := if r.1.contents = s.contents then s.wrote else i :: s.wrote }

def step (s : State) : Event → Option State
  | .createExam examId exam questions =>
    if (s.exams.get examId).isSome then none
    else some { s with
      exams := s.exams.insert examId exam
      questions := addQuestions examId s.questions s.nextId 0 questions
      nextId := s.nextId + questions.length }
  | .startAttempt user examId => some (s.begin (.exam user examId))
  | .submit user attemptId answers => some (s.begin (.attempt user attemptId answers))
  | .updateExam user courseId examId dto => some (s.begin (.manage user courseId examId dto))
  | .resume i now => (s.calls.get i).map fun t => s.settle i (act s now t)
  | .fail i => (s.calls.get i).map fun _ => s.settle i (s, .failed)
  | .change access => some { s with access }

/-! ## What a database call writes -/

theorem act_rows (s : State) (now : Nat) (t : Task) : (act s now t).1 = s ∨
    (∃ user examId, t = .create user examId ∧ (s.exams.get examId).isSome = true ∧ (act s now t).1 =
      { s with
        attempts := s.attempts.insert s.nextId ⟨examId, user.sub, now, none, none⟩
        nextId := s.nextId + 1 }) ∨
    (∃ attemptId chosen score submittedAt, t = .transaction attemptId chosen score submittedAt ∧
      s.submit attemptId chosen score submittedAt = some (act s now t).1) ∨
    (∃ examId dto, t = .deleteMany examId dto ∧ s.deleteQuestions examId = some (act s now t).1) ∨
    (∃ examId dto, t = .update examId dto ∧ (act s now t).1 = s.update examId dto) := by
  cases t with
  | create user examId =>
    cases hexam : s.exams.get examId with
    | none =>
      left
      simp only [act, hexam]
      rfl
    | some exam =>
      refine .inr (.inl ⟨user, examId, rfl, ?_, ?_⟩)
      · rw [hexam]
        rfl
      · simp only [act, hexam]
        rfl
  | transaction attemptId chosen score submittedAt =>
    cases hsubmit : s.submit attemptId chosen score submittedAt with
    | none =>
      left
      simp only [act, hsubmit]
    | some s' =>
      refine .inr (.inr (.inl ⟨attemptId, chosen, score, submittedAt, rfl, ?_⟩))
      simp only [act, hsubmit]
  | deleteMany examId dto =>
    cases hdelete : s.deleteQuestions examId with
    | none =>
      left
      simp only [act, hdelete]
    | some s' =>
      refine .inr (.inr (.inr (.inl ⟨examId, dto, rfl, ?_⟩)))
      simp only [act, hdelete]
  | update examId dto => exact .inr (.inr (.inr (.inr ⟨examId, dto, rfl, rfl⟩)))
  | exam user examId =>
    left
    simp only [act]
    split
    · split <;> rfl
    · rfl
  | access user examId exam =>
    left
    simp only [act]
    split
    · split <;> rfl
    · split <;> rfl
  | resumable user examId =>
    left
    simp only [act]
    split <;> rfl
  | alreadySat user examId =>
    left
    simp only [act]
    split <;> rfl
  | attempt user attemptId answers =>
    left
    simp only [act]
    split
    · rfl
    · split
      · rfl
      · split
        · rfl
        · split <;> rfl
  | manage user courseId examId dto =>
    left
    simp only [act]
    split <;> rfl
  | find courseId examId dto =>
    left
    simp only [act]
    split
    · rfl
    · split
      · rfl
      · split
        · rfl
        · split <;> rfl

theorem submit_rows {s s' : State} {attemptId : AttemptId} {chosen : List (QuestionId × Nat)} {score : Int}
    {submittedAt : Nat} (h : s.submit attemptId chosen score submittedAt = some s') :
    s'.exams = s.exams ∧ s'.questions = s.questions ∧ s'.attempts = s.attempts.modify attemptId fun row =>
      { row with submittedAt := some submittedAt, score := some score } := by
  unfold State.submit at h
  split at h
  · cases h
  · cases h
    exact ⟨rfl, rfl, rfl⟩

theorem submit_calls {s s' : State} {attemptId : AttemptId} {chosen : List (QuestionId × Nat)} {score : Int}
    {submittedAt : Nat} (h : s.submit attemptId chosen score submittedAt = some s') :
    s'.calls = s.calls ∧ s'.nextCall = s.nextCall := by
  unfold State.submit at h
  split at h
  · cases h
  · cases h
    exact ⟨rfl, rfl⟩

theorem deleteQuestions_rows {s s' : State} {examId : ExamId} (h : s.deleteQuestions examId = some s') :
    s'.exams = s.exams ∧ s'.attempts = s.attempts ∧ s'.answers = s.answers := by
  unfold State.deleteQuestions at h
  split at h
  · cases h
  · cases h
    exact ⟨rfl, rfl, rfl⟩

theorem deleteQuestions_calls {s s' : State} {examId : ExamId} (h : s.deleteQuestions examId = some s') :
    s'.calls = s.calls ∧ s'.nextCall = s.nextCall := by
  unfold State.deleteQuestions at h
  split at h
  · cases h
  · cases h
    exact ⟨rfl, rfl⟩

end Livetich.Exams
