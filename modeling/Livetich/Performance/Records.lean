/-
The records that the statistics of students are drawn from, and the calls of the API that write them. Quizzes, their
answers, the enrolments and the points are those of `QuizService`; answers come from it and from the buzzer of a class.

A call is one step. Of what it checks, the enrolment and the status of the class are kept, and that a question of the
buzzer belongs to the class; what else it checks (owners, groups, the state of the room) would only let less through.
-/
import Livetich.Auth.Model
import Livetich.Quiz.Course

namespace Livetich.Performance

open TransSys Livetich.Lib Livetich.Points
open Auth (UserStatus)
open Quiz (QuestionId QuizAnswer)

abbrev AssignmentId := String

structure User where
  name : String
  email : String
  role : Role
  status : UserStatus
  createdAt : Int
  deriving DecidableEq

structure Membership where
  role : Role
  status : UserStatus
  deriving DecidableEq

structure State extends Quiz.State where
  users : Table UserId User
  memberships : Table (UserId × OrganizationId) Membership
  /-- The column `organizationId` of the courses. -/
  organizations : CourseId → Option OrganizationId
  /-- The column `instructorId` of the courses. -/
  instructors : CourseId → Option UserId
  /-- The column `status` of the sessions. -/
  statuses : SessionId → SessionStatus
  /-- Unique in the pair. -/
  attendances : List (SessionId × UserId)
  messages : List (SessionId × UserId)
  /-- The course of each assignment. -/
  assignments : Table AssignmentId CourseId
  /-- Unique in the pair. -/
  submissions : List (AssignmentId × UserId)

def init : State where
  toState := Quiz.init
  users := .empty
  memberships := .empty
  organizations _ := none
  instructors _ := none
  statuses _ := .scheduled
  attendances := []
  messages := []
  assignments := .empty
  submissions := []

/-! ## The calls -/

inductive Event
  /-- A user signs up, or the row is updated. -/
  | user (id : UserId) (row : User)
  | member (id : UserId) (organizationId : OrganizationId) (row : Membership)
  /-- The calls of `QuizService`; courses, sections and sessions are created, courses deleted, students enrolled. -/
  | quiz (e : Quiz.Event)
  /-- The organization that a new course belongs to. -/
  | own (courseId : CourseId) (organizationId : OrganizationId)
  | assign (courseId : CourseId) (instructorId : Option UserId)
  | start (sessionId : SessionId)
  | finish (sessionId : SessionId)
  /-- A class that has ended is opened again within its window. -/
  | reopen (sessionId : SessionId)
  /-- `joinToken` of a student. -/
  | join (studentId : UserId) (sessionId : SessionId)
  | chat (userId : UserId) (sessionId : SessionId)
  | createAssignment (id : AssignmentId) (courseId : CourseId)
  | submit (studentId : UserId) (assignmentId : AssignmentId)
  /-- `quiz:answer` in a class whose buzzer is open for the question. -/
  | buzz (studentId : UserId) (sessionId : SessionId) (questionId : QuestionId) (answerIndex : Nat)
  | award (row : Award)

/-- An upsert. -/
def put {κ ρ : Type} [DecidableEq κ] (t : Table κ ρ) (k : κ) (r : ρ) : Table κ ρ := (t.insert k r).modify k fun _ => r

namespace State

def isEnrolled (s : State) (studentId : UserId) (courseId : CourseId) : Bool :=
  s.enrolled.contains (courseId, studentId)

/-- What goes with a course besides its quizzes, its points and its sessions. -/
def deleteCourse (s : State) (courseId : CourseId) : State :=
  { s with
    attendances := s.attendances.filter fun a => s.sessions.get a.1 != some courseId
    messages := s.messages.filter fun m => s.sessions.get m.1 != some courseId
    submissions := s.submissions.filter fun r => s.assignments.get r.1 != some courseId
    assignments := s.assignments.filter fun _ c => c != courseId }

/-- `belongs`: the question is of this class or of its course. -/
def belongs (s : State) (quiz : Quiz.Quiz) (sessionId : SessionId) : Bool :=
  quiz.sessionId == some sessionId ||
    ((quiz.courseId.or (quiz.sectionId.bind s.sections.get)).any fun c => s.sessions.get sessionId == some c)

def setStatus (s : State) (sessionId : SessionId) (status : SessionStatus) : State :=
  { s with statuses := Function.update s.statuses sessionId status }

/-- The answer of a student to a question that is there and not answered yet. -/
def buzz (s : State) (studentId : UserId) (sessionId : SessionId) (questionId : QuestionId) (answerIndex : Nat) :
    Option State := do
  let question ← s.questions.get questionId
  let quiz ← s.quizzes.get question.quizId
  let courseId ← s.sessions.get sessionId
  if s.belongs quiz sessionId ∧ s.statuses sessionId ≠ .ended ∧ s.isEnrolled studentId courseId then
    if s.answers.any fun a => a.questionId == questionId && a.studentId == studentId then some s
    else
      let isCorrect := answerIndex < question.options.length && answerIndex == question.correctIndex
      some { s with answers := s.answers ++ [⟨questionId, studentId, answerIndex, isCorrect⟩] }
  else none

/-- `.change` is how the enrolments change; they are unique in the pair. -/
def allowed : Quiz.Event → Bool
  | .change enrolled _ => enrolled.Nodup
  | _ => true

/-- What a step of the quizzes takes along. -/
def along (s : State) : Quiz.Event → State
  | .deleteCourse courseId => s.deleteCourse courseId
  | _ => s

end State

def step (s : State) : Event → Option State
  | .user id row => some { s with users := put s.users id row }
  | .member id organizationId row => some { s with memberships := put s.memberships (id, organizationId) row }
  | .quiz e =>
    if State.allowed e then (Quiz.step s.toState e).map fun q => { s.along e with toState := q } else none
  | .own courseId organizationId =>
    if s.organizations courseId = none then
      some { s with organizations := Function.update s.organizations courseId (some organizationId) }
    else none
  | .assign courseId instructorId =>
    some { s with instructors := Function.update s.instructors courseId instructorId }
  | .start sessionId => if s.statuses sessionId = .scheduled then some (s.setStatus sessionId .live) else none
  | .finish sessionId => if s.statuses sessionId = .live then some (s.setStatus sessionId .ended) else none
  | .reopen sessionId => if s.statuses sessionId = .ended then some (s.setStatus sessionId .scheduled) else none
  | .join studentId sessionId =>
    (s.sessions.get sessionId).bind fun courseId =>
      if s.statuses sessionId ≠ .ended ∧ s.isEnrolled studentId courseId then
        some { s with attendances := s.attendances.insert (sessionId, studentId) }
      else none
  | .chat userId sessionId =>
    (s.sessions.get sessionId).map fun _ => { s with messages := s.messages ++ [(sessionId, userId)] }
  | .createAssignment id courseId =>
    if s.courses.contains courseId ∧ s.assignments.get id = none then
      some { s with assignments := s.assignments.insert id courseId }
    else none
  | .submit studentId assignmentId =>
    (s.assignments.get assignmentId).bind fun courseId =>
      if s.isEnrolled studentId courseId then
        some { s with submissions := s.submissions.insert (assignmentId, studentId) }
      else none
  | .buzz studentId sessionId questionId answerIndex => s.buzz studentId sessionId questionId answerIndex
  | .award row => some { s with ledger := s.ledger ++ [row] }

/-! ## Every run -/

variable {s t : State}

/-- What the database and the quizzes keep. -/
structure Sound (s : State) : Prop where
  quizzes : Quiz.Sound s.toState
  attendances : s.attendances.Nodup
  submissions : s.submissions.Nodup

theorem sound_init : Sound init := ⟨Quiz.sound_init, List.nodup_nil, List.nodup_nil⟩

/-- Answers and points are no part of what the quizzes keep. -/
theorem quizSound_of_answers {q : Quiz.State} (hs : Quiz.Sound q) (answers : List QuizAnswer) (ledger : List Award) :
    Quiz.Sound { q with answers, ledger } := by
  have hsound : Quiz.Sound { q with answers, ledger } ∧ Quiz.Keeps q { q with answers, ledger } :=
    Quiz.sound_of_quizzes hs (fun _ _ h => h) rfl rfl rfl rfl
  exact hsound.1

theorem quizSound_buzz (hs : Quiz.Sound s.toState) {studentId : UserId} {sessionId : SessionId}
    {questionId : QuestionId}
    {answerIndex : Nat} (h : s.buzz studentId sessionId questionId answerIndex = some t) :
    Quiz.Sound t.toState ∧ t.attendances = s.attendances ∧ t.submissions = s.submissions := by
  unfold State.buzz at h
  obtain ⟨question, -, h⟩ := Option.bind_eq_some_iff.1 h
  obtain ⟨quiz, -, h⟩ := Option.bind_eq_some_iff.1 h
  obtain ⟨courseId, -, h⟩ := Option.bind_eq_some_iff.1 h
  split at h
  · split at h
    · cases h
      exact ⟨hs, rfl, rfl⟩
    · cases h
      exact ⟨quizSound_of_answers hs _ _, rfl, rfl⟩
  · cases h

theorem sound_step {e : Event} (hs : Sound s) (h : step s e = some t) : Sound t := by
  obtain ⟨hquizzes, hattendances, hsubmissions⟩ := hs
  cases e with
  | user | member | assign =>
    cases h
    exact ⟨hquizzes, hattendances, hsubmissions⟩
  | award row =>
    cases h
    exact ⟨quizSound_of_answers hquizzes _ _, hattendances, hsubmissions⟩
  | own courseId organizationId =>
    unfold step at h
    dsimp only at h
    split at h <;> cases h
    exact ⟨hquizzes, hattendances, hsubmissions⟩
  | start sessionId | finish sessionId | reopen sessionId =>
    unfold step at h
    dsimp only at h
    split at h <;> cases h
    exact ⟨hquizzes, hattendances, hsubmissions⟩
  | quiz e =>
    unfold step at h
    dsimp only at h
    split at h
    · obtain ⟨q, hq, rfl⟩ := Option.map_eq_some_iff.1 h
      refine ⟨(Quiz.step_sound hquizzes hq).1, ?_, ?_⟩
      -- Only the deletion of a course takes rows away.
      · cases e with
        | deleteCourse courseId => exact hattendances.filter _
        | _ => exact hattendances
      · cases e with
        | deleteCourse courseId => exact hsubmissions.filter _
        | _ => exact hsubmissions
    · cases h
  | join studentId sessionId =>
    obtain ⟨courseId, -, h⟩ := Option.bind_eq_some_iff.1 h
    split at h <;> cases h
    exact ⟨hquizzes, hattendances.insert, hsubmissions⟩
  | chat userId sessionId =>
    obtain ⟨courseId, -, rfl⟩ := Option.map_eq_some_iff.1 h
    exact ⟨hquizzes, hattendances, hsubmissions⟩
  | createAssignment id courseId =>
    unfold step at h
    dsimp only at h
    split at h <;> cases h
    exact ⟨hquizzes, hattendances, hsubmissions⟩
  | submit studentId assignmentId =>
    obtain ⟨courseId, -, h⟩ := Option.bind_eq_some_iff.1 h
    split at h <;> cases h
    exact ⟨hquizzes, hattendances, hsubmissions.insert⟩
  | buzz studentId sessionId questionId answerIndex =>
    obtain ⟨hquizzes', hsame, hsame'⟩ := quizSound_buzz hquizzes h
    exact ⟨hquizzes', by rwa [hsame], by rwa [hsame']⟩

theorem sound_run {es : List Event} (h : run step init es = some s) : Sound s :=
  run_keeps (fun _ _ _ hs h => sound_step hs h) sound_init h

end Livetich.Performance
