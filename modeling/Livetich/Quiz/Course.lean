/-
Which course a quiz belongs to: `QuizService.create` resolves it from the section, the session and the course of the
request, and `get`, `answer`, `results` and `deleteQuestion` resolve it again from the stored row. Each call is one
step, between which courses, sections and sessions are made and courses are deleted with all that is in them.
-/
import Mathlib.Data.List.Dedup
import Mathlib.Data.List.ReduceOption
import Livetich.Lib.Checked
import Livetich.Lib.Table
import Livetich.Lib.TransSys
import Livetich.Model
import Livetich.Points.Ledger

namespace Livetich.Quiz

open TransSys Livetich.Lib Livetich.Points

abbrev SectionId := String
abbrev QuizId := Nat
abbrev QuestionId := Nat

inductive HttpError
  | badRequest (message : String)
  | notFound (message : String)
  | forbidden (message : String)
  | conflict (message : String)
  /-- A foreign key that a write breaks. -/
  | database
  deriving DecidableEq

abbrev Result := Except HttpError

/-! ## Rows and requests -/

inductive QuizType
  | section
  | buzzer
  deriving DecidableEq

structure Quiz where
  sectionId : Option SectionId
  sessionId : Option SessionId
  courseId : Option CourseId
  type : QuizType
  deriving DecidableEq

structure QuizQuestion where
  quizId : QuizId
  body : String
  options : List String
  correctIndex : Nat
  timeLimitSec : Nat
  points : Nat
  deriving DecidableEq

structure QuizAnswer where
  questionId : QuestionId
  studentId : UserId
  answerIndex : Nat
  isCorrect : Bool
  deriving DecidableEq

structure CreateQuizQuestionDto where
  body : String
  options : List String
  correctIndex : Nat
  timeLimitSec : Option Nat
  points : Option Nat
  deriving DecidableEq

structure CreateQuizDto where
  sectionId : Option SectionId
  sessionId : Option SessionId
  courseId : Option CourseId
  type : QuizType
  questions : List CreateQuizQuestionDto
  deriving DecidableEq

/-- The tables the service reads and writes; a section and a session are known by their course. -/
structure State where
  courses : List CourseId
  sections : Table SectionId CourseId
  sessions : Table SessionId CourseId
  quizzes : Table QuizId Quiz
  questions : Table QuestionId QuizQuestion
  answers : List QuizAnswer
  ledger : List Award
  enrolled : List (CourseId × UserId)
  managers : List (CourseId × UserId)
  nextId : Nat

def init : State where
  courses := []
  sections := Table.empty
  sessions := Table.empty
  quizzes := Table.empty
  questions := Table.empty
  answers := []
  ledger := []
  enrolled := []
  managers := []
  nextId := 0

/-! ## Resolving the course -/

/-- What JavaScript takes for true of an optional string. -/
def given (x : Option String) : Option String := x.filter (· ≠ "")

def assertCanManageCourse (s : State) (user : JwtPayload) (courseId : CourseId) : Result Unit :=
  ensure (s.managers.contains (courseId, user.sub) = true) (.forbidden "You do not manage this course")

def assertEnrolled (s : State) (studentId : UserId) (courseId : CourseId) : Result Unit :=
  ensure (s.enrolled.contains (courseId, studentId) = true) (.forbidden "Not enrolled")

/-- A row that is asked for must be there. -/
def lookUp (id : Option String) (find : String → Option CourseId) (message : String) : Result (Option CourseId) :=
  match given id with
  | none => .ok none
  | some id => (orThrow (find id) (.notFound message)).map some

def resolveCourseId (s : State) (dto : CreateQuizDto) : Result CourseId := do
  ensure ((given dto.sectionId).isSome = true ∨ (given dto.sessionId).isSome = true ∨
    (given dto.courseId).isSome = true) (.badRequest "sectionId, sessionId or courseId is required")
  let fromSection ← lookUp dto.sectionId s.sections.get "Section not found"
  let fromSession ← lookUp dto.sessionId s.sessions.get "Session not found"
  let fromCourse ← lookUp dto.courseId (fun id => if s.courses.contains id then some id else none) "Course not found"
  ensure ([given fromSection, given fromSession, given fromCourse].reduceOption.dedup.length ≤ 1)
    (.badRequest "section, session and course must belong to the same course")
  orThrow ((fromCourse.or fromSection).or fromSession) .database

/-- `get`, `answer` and `results` look at the section and the session only. -/
def courseIdOf (s : State) (quiz : Quiz) : Result CourseId :=
  match (given quiz.sectionId).bind s.sections.get with
  | some courseId => .ok courseId
  | none => match (given quiz.sessionId).bind s.sessions.get with
    | some courseId => .ok courseId
    | none => .error (.notFound "Quiz has no resolvable course")

/-- `deleteQuestion` looks at the course and the session only. -/
def deletionCourse (s : State) (quiz : Quiz) : Result CourseId :=
  orThrow (given (quiz.courseId.or ((given quiz.sessionId).bind s.sessions.get))) (.notFound "Question not found")

/-! ## The calls -/

/-- The rows of the questions, with the defaults of the database. -/
def addQuestions (quizId : QuizId) : Table QuestionId QuizQuestion → QuestionId → List CreateQuizQuestionDto →
    Table QuestionId QuizQuestion
  | t, _, [] => t
  | t, id, q :: qs =>
    let row := ⟨quizId, q.body, q.options, q.correctIndex, q.timeLimitSec.getD 60, q.points.getD 25⟩
    addQuestions quizId (t.insert id row) (id + 1) qs

def quizRow (courseId : CourseId) (dto : CreateQuizDto) : Quiz :=
  ⟨dto.sectionId, dto.sessionId, some courseId, dto.type⟩

/-- The foreign keys of a quiz. -/
def State.references (s : State) (quiz : Quiz) : Bool :=
  (quiz.sectionId.all fun id => (s.sections.get id).isSome) &&
    (quiz.sessionId.all fun id => (s.sessions.get id).isSome) && quiz.courseId.all s.courses.contains

def create (s : State) (user : JwtPayload) (dto : CreateQuizDto) : Result (State × QuizId) := do
  let courseId ← resolveCourseId s dto
  assertCanManageCourse s user courseId
  ensure (dto.questions.all (fun q => q.correctIndex < q.options.length) = true)
    (.badRequest "correctIndex is out of range")
  ensure (s.references (quizRow courseId dto) = true) .database
  return ({ s with
    quizzes := s.quizzes.insert s.nextId (quizRow courseId dto)
    questions := addQuestions s.nextId s.questions (s.nextId + 1) dto.questions
    nextId := s.nextId + 1 + dto.questions.length }, s.nextId)

def State.questionsOf (s : State) (quizId : QuizId) : List (QuestionId × QuizQuestion) :=
  s.questions.entries.filter (·.2.quizId == quizId)

/-- A quiz as it is sent; the answer key is for those who manage it. -/
structure Sent where
  quiz : Quiz
  questions : List (QuestionId × QuizQuestion)
  withKey : Bool
  deriving DecidableEq

def get (s : State) (user : JwtPayload) (id : QuizId) : Result Sent := do
  let quiz ← orThrow (s.quizzes.get id) (.notFound "Quiz not found")
  let courseId ← courseIdOf s quiz
  if user.role = .student then do
    assertEnrolled s user.sub courseId
    return ⟨quiz, s.questionsOf id, false⟩
  else do
    assertCanManageCourse s user courseId
    return ⟨quiz, s.questionsOf id, true⟩

def answer (s : State) (user : JwtPayload) (questionId : QuestionId) (answerIndex : Nat) : Result (State × Bool) := do
  let question ← orThrow (s.questions.get questionId) (.notFound "Question not found")
  ensure (answerIndex < question.options.length) (.badRequest "answerIndex is out of range")
  let quiz ← orThrow (s.quizzes.get question.quizId) .database
  let courseId ← courseIdOf s quiz
  assertEnrolled s user.sub courseId
  let isCorrect := answerIndex == question.correctIndex
  ensure (s.answers.any (fun a => a.questionId == questionId && a.studentId == user.sub) = false)
    (.conflict "Already answered")
  return ({ s with
    answers := s.answers ++ [⟨questionId, user.sub, answerIndex, isCorrect⟩]
    ledger := if isCorrect then s.ledger ++ [⟨user.sub, courseId, pointsQuizCorrect, .quizCorrect, some questionId⟩]
      else s.ledger }, isCorrect)

/-- Per question, how many answers there are and how many are correct. -/
def results (s : State) (user : JwtPayload) (id : QuizId) : Result (List (QuestionId × Nat × Nat)) := do
  let quiz ← orThrow (s.quizzes.get id) (.notFound "Quiz not found")
  let courseId ← courseIdOf s quiz
  assertCanManageCourse s user courseId
  return (s.questionsOf id).map fun q =>
    let answers := s.answers.filter (·.questionId == q.1)
    (q.1, answers.length, answers.countP (·.isCorrect))

def deleteQuestion (s : State) (user : JwtPayload) (questionId : QuestionId) : Result State := do
  let question ← orThrow (s.questions.get questionId) (.notFound "Question not found")
  let quiz ← orThrow (s.quizzes.get question.quizId) .database
  let courseId ← deletionCourse s quiz
  assertCanManageCourse s user courseId
  let questions := s.questions.filter fun id _ => id != questionId
  let remaining := questions.entries.any (·.2.quizId == question.quizId)
  return { s with
    answers := s.answers.filter (·.questionId != questionId)
    questions := questions
    quizzes := if remaining then s.quizzes else s.quizzes.filter fun id _ => id != question.quizId }

/-! ## Steps -/

/-- `deleteCourse`: its quizzes are those of the course and those of its sessions. -/
def deleteCourse (s : State) (courseId : CourseId) : State :=
  let gone (quiz : Quiz) : Bool :=
    quiz.courseId == some courseId || quiz.sessionId.bind s.sessions.get == some courseId
  let goneIds (id : QuizId) : Bool := (s.quizzes.get id).any gone
  let goneQuestions (id : QuestionId) : Bool := (s.questions.get id).any fun q => goneIds q.quizId
  { s with
    answers := s.answers.filter fun a => !goneQuestions a.questionId
    questions := s.questions.filter fun _ q => !goneIds q.quizId
    quizzes := s.quizzes.filter fun _ quiz => !gone quiz
    ledger := s.ledger.filter (·.courseId != courseId)
    enrolled := s.enrolled.filter (·.1 != courseId)
    sections := s.sections.filter fun _ c => c != courseId
    sessions := s.sessions.filter fun _ c => c != courseId
    courses := s.courses.filter (· != courseId) }

inductive Event
  | createCourse (courseId : CourseId)
  | createSection (id : SectionId) (courseId : CourseId)
  | createSession (id : SessionId) (courseId : CourseId)
  | deleteCourse (courseId : CourseId)
  /-- Who is enrolled and who manages what changes. -/
  | change (enrolled managers : List (CourseId × UserId))
  | create (user : JwtPayload) (dto : CreateQuizDto)
  | answer (user : JwtPayload) (questionId : QuestionId) (answerIndex : Nat)
  | deleteQuestion (user : JwtPayload) (questionId : QuestionId)

/-- A call that throws leaves the tables as they are. Ids that the database hands out are new and not empty. -/
def step (s : State) : Event → Option State
  | .createCourse courseId =>
    if courseId = "" ∨ s.courses.contains courseId then none else some { s with courses := courseId :: s.courses }
  | .createSection id courseId =>
    if id = "" ∨ (s.sections.get id).isSome ∨ ¬ s.courses.contains courseId then none
    else some { s with sections := s.sections.insert id courseId }
  | .createSession id courseId =>
    if id = "" ∨ (s.sessions.get id).isSome ∨ ¬ s.courses.contains courseId then none
    else some { s with sessions := s.sessions.insert id courseId }
  | .deleteCourse courseId => some (deleteCourse s courseId)
  | .change enrolled managers => some { s with enrolled, managers }
  | .create user dto => some (((create s user dto).toOption.map (·.1)).getD s)
  | .answer user questionId answerIndex => some (((answer s user questionId answerIndex).toOption.map (·.1)).getD s)
  | .deleteQuestion user questionId => some ((deleteQuestion s user questionId).toOption.getD s)

/-! ## The course of a stored quiz -/

/-- The quiz is of the course, and so are its section and its session. -/
structure Owned (s : State) (quiz : Quiz) (c : CourseId) : Prop where
  named : c ≠ ""
  course : quiz.courseId = some c
  section_ : ∀ id, quiz.sectionId = some id → id ≠ "" ∧ s.sections.get id = some c
  session : ∀ id, quiz.sessionId = some id → id ≠ "" ∧ s.sessions.get id = some c

structure Sound (s : State) : Prop where
  quizzes : ∀ id quiz, s.quizzes.get id = some quiz → id < s.nextId ∧ ∃ c, Owned s quiz c
  sections : ∀ id c, s.sections.get id = some c → id ≠ "" ∧ c ≠ ""
  sessions : ∀ id c, s.sessions.get id = some c → id ≠ "" ∧ c ≠ ""
  courses : ∀ c ∈ s.courses, c ≠ ""

theorem sound_init : Sound init := by
  constructor
  · intro id quiz h
    cases h
  · intro id c h
    cases h
  · intro id c h
    cases h
  · intro c h
    cases h

theorem Owned.mono {s s' : State} {quiz : Quiz} {c : CourseId} (h : Owned s quiz c)
    (hsections : ∀ id, s.sections.get id = some c → s'.sections.get id = some c)
    (hsessions : ∀ id, s.sessions.get id = some c → s'.sessions.get id = some c) : Owned s' quiz c :=
  ⟨h.named, h.course, fun id hid => ⟨(h.section_ id hid).1, hsections id (h.section_ id hid).2⟩,
    fun id hid => ⟨(h.session id hid).1, hsessions id (h.session id hid).2⟩⟩

theorem given_eq_some {x : Option String} {a : String} : given x = some a ↔ x = some a ∧ a ≠ "" := by
  unfold given
  rw [Option.filter_eq_some_iff, decide_eq_true_eq]

theorem lookUp_ok {id : Option String} {find : String → Option CourseId} {message : String} {r : Option CourseId}
    (h : lookUp id find message = .ok r) :
    (given id = none ∧ r = none) ∨ ∃ i c, given id = some i ∧ find i = some c ∧ r = some c := by
  unfold lookUp at h
  cases hid : given id with
  | none =>
    rw [hid] at h
    cases h
    exact .inl ⟨rfl, rfl⟩
  | some i =>
    rw [hid] at h
    cases hfind : find i with
    | none =>
      simp only [hfind] at h
      cases h
    | some c =>
      simp only [hfind] at h
      cases h
      exact .inr ⟨i, c, rfl, hfind, rfl⟩

/-- A set of at most one element. -/
theorem eq_of_dedup {α : Type*} [DecidableEq α] {l : List α} (h : l.dedup.length ≤ 1) {a b : α} (ha : a ∈ l)
    (hb : b ∈ l) : a = b := by
  rw [← List.mem_dedup] at ha hb
  cases hl : l.dedup with
  | nil =>
    rw [hl] at ha
    cases ha
  | cons x rest =>
    rw [hl] at h ha hb
    rw [List.length_cons] at h
    obtain rfl : rest = [] := List.eq_nil_of_length_eq_zero (by omega)
    rw [List.mem_singleton] at ha hb
    rw [ha, hb]

/-- What `create` resolves is the course of the section and of the session that it is given. -/
theorem resolveCourseId_ok {s : State} (hs : Sound s) {dto : CreateQuizDto} {c : CourseId}
    (h : resolveCourseId s dto = .ok c) : c ≠ "" ∧
      (∀ id, given dto.sectionId = some id → s.sections.get id = some c) ∧
      ∀ id, given dto.sessionId = some id → s.sessions.get id = some c := by
  unfold resolveCourseId at h
  obtain ⟨-, -, h⟩ := bind_ok_iff.1 h
  obtain ⟨fromSection, hsection, h⟩ := bind_ok_iff.1 h
  obtain ⟨fromSession, hsession, h⟩ := bind_ok_iff.1 h
  obtain ⟨fromCourse, hcourse, h⟩ := bind_ok_iff.1 h
  obtain ⟨u, honly, h⟩ := bind_ok_iff.1 h
  rw [ensure_ok_iff] at honly
  rw [orThrow_ok_iff] at h
  -- every course that was found has a name, so it is in the list
  have hfound : ∀ r, r ∈ [fromSection, fromSession, fromCourse] → ∀ d, r = some d → d ≠ "" := by
    intro r hr d hd
    simp only [List.mem_cons, List.not_mem_nil, or_false] at hr
    rcases hr with rfl | rfl | rfl
    · rcases lookUp_ok hsection with ⟨-, hnone⟩ | ⟨i, e, -, hget, he⟩
      · rw [hd] at hnone
        cases hnone
      · rw [hd, Option.some.injEq] at he
        exact he ▸ (hs.sections i e hget).2
    · rcases lookUp_ok hsession with ⟨-, hnone⟩ | ⟨i, e, -, hget, he⟩
      · rw [hd] at hnone
        cases hnone
      · rw [hd, Option.some.injEq] at he
        exact he ▸ (hs.sessions i e hget).2
    · rcases lookUp_ok hcourse with ⟨-, hnone⟩ | ⟨i, e, -, hget, he⟩
      · rw [hd] at hnone
        cases hnone
      · rw [hd, Option.some.injEq] at he
        split at hget
        · rename_i hmem
          rw [Option.some.injEq] at hget
          rw [he, ← hget]
          exact hs.courses i (List.contains_iff_mem.1 hmem)
        · cases hget
  have hlisted : ∀ r, r ∈ [fromSection, fromSession, fromCourse] → ∀ d, r = some d →
      d ∈ [given fromSection, given fromSession, given fromCourse].reduceOption := by
    intro r hr d hd
    have hgiven : given r = some d := given_eq_some.2 ⟨hd, hfound r hr d hd⟩
    rw [List.reduceOption_mem_iff]
    simp only [List.mem_cons, List.not_mem_nil, or_false] at hr ⊢
    rcases hr with rfl | rfl | rfl
    · exact .inl hgiven.symm
    · exact .inr (.inl hgiven.symm)
    · exact .inr (.inr hgiven.symm)
  have hresolved : ∃ r, r ∈ [fromSection, fromSession, fromCourse] ∧ r = some c := by
    simp only [List.mem_cons, List.not_mem_nil, or_false]
    cases hc : fromCourse with
    | some d => rw [hc] at h; exact ⟨some d, .inr (.inr rfl), h⟩
    | none =>
      rw [hc, Option.none_or] at h
      cases hsec : fromSection with
      | some d => rw [hsec] at h; exact ⟨some d, .inl rfl, h⟩
      | none => rw [hsec, Option.none_or] at h; exact ⟨fromSession, .inr (.inl rfl), h⟩
  obtain ⟨r, hr, hrc⟩ := hresolved
  refine ⟨hfound r hr c hrc, fun id hid => ?_, fun id hid => ?_⟩
  · rcases lookUp_ok hsection with ⟨hnone, -⟩ | ⟨i, e, hi, hget, he⟩
    · rw [hid] at hnone
      cases hnone
    · rw [hid, Option.some.injEq] at hi
      rw [hi, hget, eq_of_dedup honly (hlisted _ (by simp) e he) (hlisted r hr c hrc)]
  · rcases lookUp_ok hsession with ⟨hnone, -⟩ | ⟨i, e, hi, hget, he⟩
    · rw [hid] at hnone
      cases hnone
    · rw [hid, Option.some.injEq] at hi
      rw [hi, hget, eq_of_dedup honly (hlisted _ (by simp) e he) (hlisted r hr c hrc)]

theorem create_ok {s s' : State} {user : JwtPayload} {dto : CreateQuizDto} {id : QuizId}
    (h : create s user dto = .ok (s', id)) : ∃ c, resolveCourseId s dto = .ok c ∧ id = s.nextId ∧
      s.references (quizRow c dto) = true ∧ s'.quizzes = s.quizzes.insert id (quizRow c dto) ∧
      s'.sections = s.sections ∧ s'.sessions = s.sessions ∧ s'.courses = s.courses ∧ s.nextId < s'.nextId := by
  unfold create at h
  obtain ⟨c, hc, h⟩ := bind_ok_iff.1 h
  obtain ⟨-, -, h⟩ := bind_ok_iff.1 h
  obtain ⟨-, -, h⟩ := bind_ok_iff.1 h
  obtain ⟨u, href, h⟩ := bind_ok_iff.1 h
  rw [ensure_ok_iff] at href
  cases h
  exact ⟨c, hc, rfl, href, rfl, rfl, rfl, rfl, by show s.nextId < s.nextId + 1 + _; omega⟩

/-- A quiz that is created is owned by the course that was resolved. -/
theorem owned_create {s : State} (hs : Sound s) {dto : CreateQuizDto} {c : CourseId}
    (hc : resolveCourseId s dto = .ok c) (href : s.references (quizRow c dto) = true) : Owned s (quizRow c dto) c := by
  obtain ⟨hnamed, hsection, hsession⟩ := resolveCourseId_ok hs hc
  unfold State.references at href
  simp only [Bool.and_eq_true] at href
  refine ⟨hnamed, rfl, fun id hid => ?_, fun id hid => ?_⟩
  · have hthere := href.1.1
    rw [hid, Option.all_some] at hthere
    obtain ⟨d, hd⟩ := Option.isSome_iff_exists.1 hthere
    have hne := (hs.sections id d hd).1
    exact ⟨hne, hsection id (given_eq_some.2 ⟨hid, hne⟩)⟩
  · have hthere := href.1.2
    rw [hid, Option.all_some] at hthere
    obtain ⟨d, hd⟩ := Option.isSome_iff_exists.1 hthere
    have hne := (hs.sessions id d hd).1
    exact ⟨hne, hsession id (given_eq_some.2 ⟨hid, hne⟩)⟩

/-- Only `create` adds a quiz, and only the tables of courses, sections and sessions change otherwise. -/
theorem answer_ok {s s' : State} {user : JwtPayload} {questionId : QuestionId} {i : Nat} {correct : Bool}
    (h : answer s user questionId i = .ok (s', correct)) : s'.quizzes = s.quizzes ∧ s'.sections = s.sections ∧
      s'.sessions = s.sessions ∧ s'.courses = s.courses ∧ s'.nextId = s.nextId := by
  unfold answer at h
  obtain ⟨question, -, h⟩ := bind_ok_iff.1 h
  obtain ⟨-, -, h⟩ := bind_ok_iff.1 h
  obtain ⟨quiz, -, h⟩ := bind_ok_iff.1 h
  obtain ⟨c, -, h⟩ := bind_ok_iff.1 h
  obtain ⟨-, -, h⟩ := bind_ok_iff.1 h
  obtain ⟨-, -, h⟩ := bind_ok_iff.1 h
  cases h
  exact ⟨rfl, rfl, rfl, rfl, rfl⟩

theorem deleteQuestion_ok {s s' : State} {user : JwtPayload} {questionId : QuestionId}
    (h : deleteQuestion s user questionId = .ok s') :
    (∀ id quiz, s'.quizzes.get id = some quiz → s.quizzes.get id = some quiz) ∧ s'.sections = s.sections ∧
      s'.sessions = s.sessions ∧ s'.courses = s.courses ∧ s'.nextId = s.nextId := by
  unfold deleteQuestion at h
  obtain ⟨question, -, h⟩ := bind_ok_iff.1 h
  obtain ⟨quiz, -, h⟩ := bind_ok_iff.1 h
  obtain ⟨c, -, h⟩ := bind_ok_iff.1 h
  obtain ⟨-, -, h⟩ := bind_ok_iff.1 h
  cases h
  refine ⟨fun id quiz hquiz => ?_, rfl, rfl, rfl, rfl⟩
  simp only at hquiz
  split at hquiz
  · exact hquiz
  · exact (Table.get_filter.1 hquiz).1

/-- Quizzes are not changed, and none comes back or is new but with the next id. -/
def Keeps (s s' : State) : Prop :=
  s.nextId ≤ s'.nextId ∧ ∀ id quiz, id < s.nextId → s'.quizzes.get id = some quiz → s.quizzes.get id = some quiz

theorem Sound.fresh {s : State} (hs : Sound s) : s.quizzes.get s.nextId = none :=
  Option.eq_none_iff_forall_ne_some.2 fun quiz hquiz => absurd (hs.quizzes _ quiz hquiz).1 (lt_irrefl _)

theorem sound_of_quizzes {s s' : State} (hs : Sound s)
    (hquizzes : ∀ id quiz, s'.quizzes.get id = some quiz → s.quizzes.get id = some quiz)
    (hsections : s'.sections = s.sections) (hsessions : s'.sessions = s.sessions) (hcourses : s'.courses = s.courses)
    (hnext : s'.nextId = s.nextId) : Sound s' ∧ Keeps s s' := by
  refine ⟨⟨fun id quiz hquiz => ?_, by rw [hsections]; exact hs.sections, by rw [hsessions]; exact hs.sessions,
    by rw [hcourses]; exact hs.courses⟩, by rw [hnext], fun id quiz _ hquiz => hquizzes id quiz hquiz⟩
  obtain ⟨hlt, c, howned⟩ := hs.quizzes id quiz (hquizzes id quiz hquiz)
  exact ⟨by rw [hnext]; exact hlt, c, howned.mono (fun _ h => by rw [hsections, h]) fun _ h => by rw [hsessions, h]⟩

theorem sound_create {s s' : State} {user : JwtPayload} {dto : CreateQuizDto} {id : QuizId} (hs : Sound s)
    (h : create s user dto = .ok (s', id)) : Sound s' ∧ Keeps s s' := by
  obtain ⟨c, hc, rfl, href, hquizzes, hsections, hsessions, hcourses, hnext⟩ := create_ok h
  have hget := Table.get_insert hs.fresh (quizRow c dto)
  refine ⟨⟨fun id quiz hquiz => ?_, by rw [hsections]; exact hs.sections, by rw [hsessions]; exact hs.sessions,
    by rw [hcourses]; exact hs.courses⟩, hnext.le, fun id quiz hid hquiz => ?_⟩
  · have howned : ∃ d, Owned s quiz d := by
      rw [hquizzes, hget] at hquiz
      split at hquiz
      · cases hquiz
        exact ⟨c, owned_create hs hc href⟩
      · exact (hs.quizzes id quiz hquiz).2
    have hlt : id < s'.nextId := by
      rw [hquizzes, hget] at hquiz
      split at hquiz
      · rename_i hid
        rw [hid]
        exact hnext
      · exact (hs.quizzes id quiz hquiz).1.trans hnext
    obtain ⟨d, howned⟩ := howned
    exact ⟨hlt, d, howned.mono (fun _ h => by rw [hsections, h]) fun _ h => by rw [hsessions, h]⟩
  · rw [hquizzes, hget, if_neg (ne_of_lt hid)] at hquiz
    exact hquiz

theorem step_sound {s s' : State} {e : Event} (hs : Sound s) (h : step s e = some s') : Sound s' ∧ Keeps s s' := by
  have hself : Sound s ∧ Keeps s s := ⟨hs, le_rfl, fun _ _ _ h => h⟩
  cases e with
  | createCourse courseId =>
    rw [step] at h
    split at h
    · cases h
    · rename_i hnew
      cases h
      refine ⟨⟨fun id quiz hquiz => ?_, hs.sections, hs.sessions, fun c hc => ?_⟩, le_rfl, fun _ _ _ h => h⟩
      · obtain ⟨hlt, c, howned⟩ := hs.quizzes id quiz hquiz
        exact ⟨hlt, c, howned.mono (fun _ h => h) fun _ h => h⟩
      · rcases List.mem_cons.1 hc with rfl | hc
        · exact fun h => hnew (.inl h)
        · exact hs.courses c hc
  | createSection id courseId =>
    rw [step] at h
    split at h
    · cases h
    · rename_i hnew
      simp only [not_or, Bool.not_eq_true, Bool.not_eq_false, Option.isSome_eq_false_iff,
        Option.isNone_iff_eq_none] at hnew
      cases h
      refine ⟨⟨fun qid quiz hquiz => ?_, fun sec c hc => ?_, hs.sessions, hs.courses⟩, le_rfl, fun _ _ _ h => h⟩
      · obtain ⟨hlt, c, howned⟩ := hs.quizzes qid quiz hquiz
        exact ⟨hlt, c, howned.mono (fun _ h => Table.get_insert_of_some h _ _) fun _ h => h⟩
      · rw [Table.get_insert hnew.2.1] at hc
        split at hc
        · rename_i hsec
          cases hc
          exact ⟨hsec ▸ hnew.1, hs.courses _ (List.contains_iff_mem.1 hnew.2.2)⟩
        · exact hs.sections sec c hc
  | createSession id courseId =>
    rw [step] at h
    split at h
    · cases h
    · rename_i hnew
      simp only [not_or, Bool.not_eq_true, Bool.not_eq_false, Option.isSome_eq_false_iff,
        Option.isNone_iff_eq_none] at hnew
      cases h
      refine ⟨⟨fun qid quiz hquiz => ?_, hs.sections, fun ses c hc => ?_, hs.courses⟩, le_rfl, fun _ _ _ h => h⟩
      · obtain ⟨hlt, c, howned⟩ := hs.quizzes qid quiz hquiz
        exact ⟨hlt, c, howned.mono (fun _ h => h) fun _ h => Table.get_insert_of_some h _ _⟩
      · rw [Table.get_insert hnew.2.1] at hc
        split at hc
        · rename_i hses
          cases hc
          exact ⟨hses ▸ hnew.1, hs.courses _ (List.contains_iff_mem.1 hnew.2.2)⟩
        · exact hs.sessions ses c hc
  | deleteCourse courseId =>
    cases h
    refine ⟨⟨fun id quiz hquiz => ?_, fun id c hc => hs.sections id c (Table.get_filter.1 hc).1,
      fun id c hc => hs.sessions id c (Table.get_filter.1 hc).1,
      fun c hc => hs.courses c (List.mem_of_mem_filter hc)⟩, le_rfl,
      fun id quiz _ hquiz => (Table.get_filter.1 hquiz).1⟩
    obtain ⟨hquiz, hstays⟩ := Table.get_filter.1 hquiz
    obtain ⟨hlt, c, howned⟩ := hs.quizzes id quiz hquiz
    -- what stays is of another course, and so are its section and its session
    have hne : c ≠ courseId := by
      rintro rfl
      simp [howned.course] at hstays
    refine ⟨hlt, c, howned.mono (fun sec h => ?_) fun ses h => ?_⟩
    · exact Table.get_filter.2 ⟨h, bne_iff_ne.2 hne⟩
    · exact Table.get_filter.2 ⟨h, bne_iff_ne.2 hne⟩
  | change enrolled managers =>
    cases h
    exact sound_of_quizzes hs (fun _ _ h => h) rfl rfl rfl rfl
  | answer user questionId i =>
    cases h
    cases hanswer : answer s user questionId i with
    | error e => exact hself
    | ok r =>
      obtain ⟨hquizzes, hsections, hsessions, hcourses, hnext⟩ := answer_ok hanswer
      exact sound_of_quizzes hs (fun _ _ h => hquizzes ▸ h) hsections hsessions hcourses hnext
  | deleteQuestion user questionId =>
    cases h
    cases hdelete : deleteQuestion s user questionId with
    | error e => exact hself
    | ok r =>
      obtain ⟨hquizzes, hsections, hsessions, hcourses, hnext⟩ := deleteQuestion_ok hdelete
      exact sound_of_quizzes hs hquizzes hsections hsessions hcourses hnext
  | create user dto =>
    cases h
    cases hcreate : create s user dto with
    | error e => exact hself
    | ok r => exact sound_create hs hcreate

/-! ## The resolvers -/

theorem deletionCourse_owned {s : State} {quiz : Quiz} {c : CourseId} (h : Owned s quiz c) :
    deletionCourse s quiz = .ok c := by
  unfold deletionCourse
  rw [h.course, Option.some_or, orThrow_ok_iff]
  exact given_eq_some.2 ⟨rfl, h.named⟩

theorem courseIdOf_owned {s : State} {quiz : Quiz} {c : CourseId} (h : Owned s quiz c) :
    courseIdOf s quiz = .ok c ↔ (given quiz.sectionId).isSome = true ∨ (given quiz.sessionId).isSome = true := by
  unfold courseIdOf
  cases hsection : given quiz.sectionId with
  | some id =>
    rw [Option.bind_some, (h.section_ id (given_eq_some.1 hsection).1).2]
    exact ⟨fun _ => .inl rfl, fun _ => rfl⟩
  | none =>
    rw [Option.bind_none]
    cases hsession : given quiz.sessionId with
    | some id =>
      rw [Option.bind_some, (h.session id (given_eq_some.1 hsession).1).2]
      exact ⟨fun _ => .inr rfl, fun _ => rfl⟩
    | none =>
      rw [Option.bind_none]
      constructor
      · rintro ⟨⟩
      · rintro (h | h)
        · cases h
        · cases h

/-- A stored quiz is of the course for everyone: those who are enrolled in it and those who manage it, and nobody else,
reach the quiz and its questions. -/
structure BelongsTo (s : State) (id : QuizId) (c : CourseId) : Prop where
  resolves : ∃ quiz, s.quizzes.get id = some quiz ∧ courseIdOf s quiz = .ok c ∧ deletionCourse s quiz = .ok c
  get : ∀ user : JwtPayload, (∃ sent, get s user id = .ok sent) ↔
    if user.role = .student then (c, user.sub) ∈ s.enrolled else (c, user.sub) ∈ s.managers
  results : ∀ user : JwtPayload, (∃ rows, results s user id = .ok rows) ↔ (c, user.sub) ∈ s.managers
  answer : ∀ (user : JwtPayload) (q : QuestionId) (question : QuizQuestion) (i : Nat),
    s.questions.get q = some question → question.quizId = id → i < question.options.length →
    s.answers.any (fun a => a.questionId == q && a.studentId == user.sub) = false →
    ((∃ r, answer s user q i = .ok r) ↔ (c, user.sub) ∈ s.enrolled)
  deleteQuestion : ∀ (user : JwtPayload) (q : QuestionId) (question : QuizQuestion), s.questions.get q = some question →
    question.quizId = id → ((∃ s', deleteQuestion s user q = .ok s') ↔ (c, user.sub) ∈ s.managers)

theorem assertEnrolled_ok {s : State} {studentId : UserId} {c : CourseId} {u : Unit} :
    assertEnrolled s studentId c = .ok u ↔ (c, studentId) ∈ s.enrolled := by
  unfold assertEnrolled
  rw [ensure_ok_iff, List.contains_iff_mem]

theorem assertCanManageCourse_ok {s : State} {user : JwtPayload} {c : CourseId} {u : Unit} :
    assertCanManageCourse s user c = .ok u ↔ (c, user.sub) ∈ s.managers := by
  unfold assertCanManageCourse
  rw [ensure_ok_iff, List.contains_iff_mem]

section Reaching

variable {s : State} {id : QuizId} {quiz : Quiz} {c : CourseId}

theorem get_reaches (hquiz : s.quizzes.get id = some quiz) (hc : courseIdOf s quiz = .ok c) (user : JwtPayload) :
    (∃ sent, get s user id = .ok sent) ↔
      if user.role = .student then (c, user.sub) ∈ s.enrolled else (c, user.sub) ∈ s.managers := by
  unfold Quiz.get
  rw [hquiz]
  simp only [orThrow, ok_bind, hc]
  split
  · rw [← assertEnrolled_ok (u := ())]
    constructor
    · rintro ⟨sent, h⟩
      obtain ⟨u, hu, -⟩ := bind_ok_iff.1 h
      exact hu
    · intro h
      exact ⟨_, bind_ok_iff.2 ⟨(), h, rfl⟩⟩
  · rw [← assertCanManageCourse_ok (u := ())]
    constructor
    · rintro ⟨sent, h⟩
      obtain ⟨u, hu, -⟩ := bind_ok_iff.1 h
      exact hu
    · intro h
      exact ⟨_, bind_ok_iff.2 ⟨(), h, rfl⟩⟩

theorem results_reaches (hquiz : s.quizzes.get id = some quiz) (hc : courseIdOf s quiz = .ok c) (user : JwtPayload) :
    (∃ rows, results s user id = .ok rows) ↔ (c, user.sub) ∈ s.managers := by
  unfold results
  rw [hquiz, ← assertCanManageCourse_ok (u := ())]
  simp only [orThrow, ok_bind, hc]
  constructor
  · rintro ⟨rows, h⟩
    obtain ⟨u, hu, -⟩ := bind_ok_iff.1 h
    exact hu
  · intro h
    exact ⟨_, bind_ok_iff.2 ⟨(), h, rfl⟩⟩

theorem answer_reaches (hquiz : s.quizzes.get id = some quiz) (hc : courseIdOf s quiz = .ok c) (user : JwtPayload)
    {q : QuestionId} {question : QuizQuestion} {i : Nat} (hq : s.questions.get q = some question)
    (hid : question.quizId = id) (hi : i < question.options.length)
    (hnew : s.answers.any (fun a => a.questionId == q && a.studentId == user.sub) = false) :
    (∃ r, answer s user q i = .ok r) ↔ (c, user.sub) ∈ s.enrolled := by
  subst hid
  unfold answer
  rw [hq, ← assertEnrolled_ok (u := ())]
  simp only [orThrow, ok_bind, hquiz, hc, ensure, if_pos hi, hnew, if_true]
  constructor
  · rintro ⟨r, h⟩
    obtain ⟨u, hu, -⟩ := bind_ok_iff.1 h
    exact hu
  · intro h
    exact ⟨_, bind_ok_iff.2 ⟨(), h, rfl⟩⟩

theorem deleteQuestion_reaches (hquiz : s.quizzes.get id = some quiz) (hc : deletionCourse s quiz = .ok c)
    (user : JwtPayload) {q : QuestionId} {question : QuizQuestion} (hq : s.questions.get q = some question)
    (hid : question.quizId = id) : (∃ s', deleteQuestion s user q = .ok s') ↔ (c, user.sub) ∈ s.managers := by
  subst hid
  unfold deleteQuestion
  rw [hq, ← assertCanManageCourse_ok (u := ())]
  simp only [orThrow, ok_bind, hquiz, hc]
  constructor
  · rintro ⟨s', h⟩
    obtain ⟨u, hu, -⟩ := bind_ok_iff.1 h
    exact hu
  · intro h
    exact ⟨_, bind_ok_iff.2 ⟨(), h, rfl⟩⟩

end Reaching

/-- A quiz that `create` accepts belongs to the course that it resolved, in every later state that has the quiz, if and
only if the request names a section or a session. -/
theorem quiz_belongs {es₁ es₂ : List Event} {s s' t : State} {user : JwtPayload} {dto : CreateQuizDto} {id : QuizId}
    {quiz : Quiz} {c : CourseId} (h₁ : run step init es₁ = some s) (hc : resolveCourseId s dto = .ok c)
    (hcreate : create s user dto = .ok (s', id)) (h₂ : run step s' es₂ = some t)
    (hquiz : t.quizzes.get id = some quiz) :
    BelongsTo t id c ↔ (given dto.sectionId).isSome = true ∨ (given dto.sessionId).isSome = true := by
  have hs : Sound s := run_keeps (fun _ _ _ h h' => (step_sound h h').1) sound_init h₁
  have hs' := sound_create hs hcreate
  obtain ⟨c', hc', rfl, -, hquizzes, -, -, -, hnext⟩ := create_ok hcreate
  rw [hc, Except.ok.injEq] at hc'
  subst hc'
  have ht : Sound t ∧ Keeps s' t := by
    refine run_keeps (I := fun u => Sound u ∧ Keeps s' u) (fun u e u' hu hstep => ?_)
      ⟨hs'.1, le_rfl, fun _ _ _ h => h⟩ h₂
    obtain ⟨hsound, hle, hkept⟩ := step_sound hu.1 hstep
    exact ⟨hsound, hu.2.1.trans hle, fun j q hj hq => hu.2.2 j q hj (hkept j q (hj.trans_le hu.2.1) hq)⟩
  -- the stored row is the one that was created
  have hrow : quiz = quizRow c dto := by
    have hold := ht.2.2 _ quiz hnext hquiz
    rw [hquizzes, Table.get_insert hs.fresh, if_pos rfl] at hold
    exact (Option.some.inj hold).symm
  subst hrow
  obtain ⟨-, d, howned⟩ := ht.1.quizzes _ _ hquiz
  obtain rfl : c = d := Option.some.inj howned.course
  rw [show (given dto.sectionId).isSome = true ∨ (given dto.sessionId).isSome = true ↔ _ from
    (courseIdOf_owned howned).symm]
  constructor
  · intro h
    obtain ⟨q, hq, hresolves, -⟩ := h.resolves
    rw [hquiz, Option.some.injEq] at hq
    exact hq ▸ hresolves
  · intro h
    have hdeletion := deletionCourse_owned howned
    exact ⟨⟨_, hquiz, h, hdeletion⟩, get_reaches hquiz h, results_reaches hquiz h,
      fun user _ _ _ hq hid hi hnew => answer_reaches hquiz h user hq hid hi hnew,
      fun user _ _ hq hid => deleteQuestion_reaches hquiz hdeletion user hq hid⟩

/-! ### A question bank -/

namespace Example

def teacher : JwtPayload := ⟨"yusuf", .instructor, "Yusuf", none, none, none⟩

def student : JwtPayload := ⟨"amina", .student, "Amina", none, none, none⟩

def school : List Event :=
  [.createCourse "c", .createSection "s" "c", .change [("c", "amina")] [("c", "yusuf")]]

def questions : List CreateQuizQuestionDto := [⟨"1 + 1", ["1", "2"], 1, none, none⟩]

/-- A quiz of a section, and one of the course alone. -/
def ofSection : CreateQuizDto := ⟨some "s", none, none, .section, questions⟩

def ofCourse : CreateQuizDto := ⟨none, none, some "c", .buzzer, questions⟩

/-- Who reaches the quiz of a request: the student by `get`, the teacher by `get`, by `results` and by
`deleteQuestion`. -/
def reached (dto : CreateQuizDto) : Option (Bool × Bool × Bool × Bool) := do
  let s ← run step init school
  let (t, id) ← (create s teacher dto).toOption
  some ((Quiz.get t student id).toOption.isSome, (Quiz.get t teacher id).toOption.isSome,
    (results t teacher id).toOption.isSome, (deleteQuestion t teacher (id + 1)).toOption.isSome)

end Example

open Example in
theorem section_quiz_belongs : ∃ s t, run step init school = some s ∧ create s teacher ofSection = .ok (t, 0) ∧
    (BelongsTo t 0 "c" ↔ (given ofSection.sectionId).isSome = true ∨ (given ofSection.sessionId).isSome = true) := by
  have hrun : ((run step init school).bind fun s => (create s teacher ofSection).toOption.map fun r =>
      (resolveCourseId s ofSection, r.2, (r.1.quizzes.get r.2).isSome)) = some (.ok "c", 0, true) := by decide
  obtain ⟨s, hs, h⟩ := Option.bind_eq_some_iff.1 hrun
  obtain ⟨⟨t, id⟩, hcreate, hout⟩ := Option.map_eq_some_iff.1 h
  rw [toOption_eq_some] at hcreate
  simp only [Prod.mk.injEq] at hout
  obtain ⟨hresolved, rfl, hthere⟩ := hout
  obtain ⟨quiz, hquiz⟩ := Option.isSome_iff_exists.1 hthere
  exact ⟨s, t, hs, hcreate, quiz_belongs hs hresolved hcreate (run_nil step t) hquiz⟩

open Example in
theorem bank_unreachable : reached ofSection = some (true, true, true, true) ∧
    reached ofCourse = some (false, false, false, true) := by
  decide

end Livetich.Quiz
