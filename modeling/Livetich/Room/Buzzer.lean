/-
The buzzer of one session: `onBuzzerStart`, `onQuizAnswer` and `timeoutBuzzer` of the room gateway
as tasks that run from one awaited call to the next, over the session's Redis keys, its entry of
the in-process timer map, the quiz rows and the points ledger. Every key and map entry these
handlers touch belongs to one session, so one session is the whole state.

An awaited call takes effect in one step and its handler runs on to the next await in the same
step, except where the code between two awaits touches the timer map: that is a step of its own.
Every write of QUESTION_OPEN numbers a new round; the stored value and the tasks that copy it
carry the number, which no decision reads.
-/
import Livetich.Model
import Livetich.Lib.TransSys

namespace Livetich.Room.Buzzer

open TransSys

/-! ## Data -/

abbrev QuestionId := String

/-- `BuzzerPhase`. -/
inductive Phase
  | idle
  | collecting
  | questionOpen
  | winner
  | timeout
  | qa
  deriving DecidableEq

structure QuizQuestionPublic where
  questionId : QuestionId
  body : String
  options : List String
  timeLimitSec : Nat
  points : Int
  openedAt : Nat
  deriving DecidableEq

structure BuzzerState where
  phase : Phase
  eligibleUserIds : List UserId
  question : Option QuizQuestionPublic
  winner : Option RoomUser
  deriving DecidableEq

/-- The quiz a question belongs to, with the courses its session and section resolve to. -/
structure QuizRef where
  sessionId : Option SessionId
  courseId : Option CourseId
  sessionCourseId : Option CourseId
  sectionCourseId : Option CourseId
  deriving DecidableEq

structure QuizQuestion where
  id : QuestionId
  body : String
  options : List String
  correctIndex : Int
  timeLimitSec : Nat
  points : Int
  quiz : QuizRef
  deriving DecidableEq

structure QuizAnswer where
  questionId : QuestionId
  studentId : UserId
  answerIndex : Int
  isCorrect : Bool
  deriving DecidableEq

/-- The points row of a `BUZZER_WIN` award. -/
structure BuzzerWin where
  studentId : UserId
  courseId : CourseId
  delta : Int
  refId : QuestionId
  /-- The number of the round whose opening the winner's re-check read. -/
  round : Nat
  deriving DecidableEq

/-- The rows the handlers look up. -/
structure Db where
  session : Option LiveSession
  quizQuestion : QuestionId → Option QuizQuestion

/-- What a message carries of its socket: the token's claims and the socket's flags. -/
structure Client where
  user : JwtPayload
  teaching : Bool
  inRoom : Bool
  deriving DecidableEq

/-- A `quiz:answer` message past its first checks. -/
structure Attempt where
  client : Client
  questionId : QuestionId
  answerIndex : Int
  deriving DecidableEq

/-! ## Tasks -/

/-- A handler in flight, named by the call it waits for next. -/
inductive Task
  | startSession (client : Client) (questionId : QuestionId)
  | startRead (session : LiveSession) (questionId : QuestionId)
  | startPresence (session : LiveSession) (questionId : QuestionId)
  | startQuestion (session : LiveSession) (questionId : QuestionId) (eligible : List RoomUser)
  | startClear (question : QuizQuestion) (eligible : List RoomUser) (openedAt : Nat)
  | startOpen (question : QuizQuestion) (eligible : List RoomUser) (openedAt : Nat)
  | startTimer (question : QuizQuestion)
  | answerRead (a : Attempt)
  | answerMark (a : Attempt)
  | answerExpire (a : Attempt) (added : Bool)
  | answerQuestion (a : Attempt)
  | answerPersist (a : Attempt) (question : QuizQuestion)
  | answerRecheck (a : Attempt) (question : QuizQuestion)
  | answerClear (a : Attempt) (question : QuizQuestion) (round : Nat) (latest : BuzzerState)
  | answerWin (a : Attempt) (question : QuizQuestion) (round : Nat) (latest : BuzzerState)
  | answerAward (a : Attempt) (question : QuizQuestion) (round : Nat) (courseId : CourseId)
  | timeoutRead (questionId : QuestionId)
  | timeoutWrite (round : Nat) (state : BuzzerState)
  deriving DecidableEq

structure State where
  /-- `room:<id>:buzzer`, with the number of the round it stems from. -/
  buzzer : Option (Nat × BuzzerState)
  /-- `room:<id>:buzzer-answered`. -/
  answered : List UserId
  /-- `room:<id>:presence`. -/
  presence : List RoomUser
  /-- The session's entry of `buzzerTimers`. -/
  buzzerTimers : Option Nat
  /-- Timeouts neither fired nor cleared, with the question each closes. -/
  timeouts : List (Nat × QuestionId)
  nextTimeout : Nat
  quizAnswers : List QuizAnswer
  pointsLedger : List BuzzerWin
  /-- The number of writes of QUESTION_OPEN so far. -/
  rounds : Nat
  tasks : Pool Task

def init (presence : List RoomUser) : State where
  buzzer := none
  answered := []
  presence := presence
  buzzerTimers := none
  timeouts := []
  nextTimeout := 0
  quizAnswers := []
  pointsLedger := []
  rounds := 0
  tasks := Pool.empty

/-! ## The pure parts of the handlers -/

/-- The question test of `onBuzzerStart`: tied to this session, or to this session's course. -/
def belongs (session : LiveSession) (q : QuizQuestion) : Bool :=
  q.quiz.sessionId == some session.id ||
    match q.quiz.courseId.or q.quiz.sectionCourseId with
    | some c => c == session.course.id
    | none => false

/-- The value `onBuzzerStart` stores. -/
def openState (q : QuizQuestion) (eligible : List RoomUser) (openedAt : Nat) : BuzzerState where
  phase := .questionOpen
  eligibleUserIds := eligible.map (·.userId)
  question := some ⟨q.id, q.body, q.options, q.timeLimitSec, q.points, openedAt⟩
  winner := none

/-- The stored value is an open question with this id. -/
def opensOn (st : Option (Nat × BuzzerState)) (questionId : QuestionId) : Bool :=
  match st with
  | some (_, b) => b.phase == .questionOpen && b.question.map (·.questionId) == some questionId
  | none => false

def isCorrect (q : QuizQuestion) (answerIndex : Int) : Bool :=
  0 ≤ answerIndex && answerIndex < q.options.length && answerIndex == q.correctIndex

/-- The course whose leaderboard a question feeds. -/
def awardCourse (q : QuizQuestion) : Option CourseId :=
  (q.quiz.courseId.or q.quiz.sessionCourseId).or q.quiz.sectionCourseId

def winnerState (latest : BuzzerState) (c : Client) : BuzzerState where
  phase := .winner
  eligibleUserIds := latest.eligibleUserIds
  question := latest.question
  winner := some (roomUser c.user c.teaching)

def timeoutState (b : BuzzerState) : BuzzerState where
  phase := .timeout
  eligibleUserIds := b.eligibleUserIds
  question := b.question
  winner := none

/-- `clearTimer`: cancel the mapped timeout, if it has not fired, and forget it. -/
def clearTimer (s : State) : State :=
  { s with
    timeouts := match s.buzzerTimers with
      | some t => s.timeouts.filter (·.1 ≠ t)
      | none => s.timeouts
    buzzerTimers := none }

/-! ## Steps -/

/-- Task `i` goes on as `t`, or ends. -/
def State.goto (s : State) (i : Nat) (t : Option Task) : State := { s with tasks := s.tasks.put i t }

/-- The next step of task `t`, numbered `i`. -/
def resume (db : Db) (now : Nat) (s : State) (i : Nat) : Task → State
  | .startSession c q =>
    s.goto i ((ownedSession c.user db.session).map fun session => .startRead session q)
  | .startRead session q =>
    match s.buzzer with
    | some (_, b) =>
      if b.phase = .questionOpen then s.goto i none else s.goto i (some (.startPresence session q))
    | none => s.goto i (some (.startPresence session q))
  | .startPresence session q =>
    let eligible := s.presence.filter (·.role = .student)
    if eligible = [] then s.goto i none else s.goto i (some (.startQuestion session q eligible))
  | .startQuestion session q eligible =>
    match db.quizQuestion q with
    | some question =>
      if belongs session question then
        s.goto i (some (.startClear question eligible now))
      else s.goto i none
    | none => s.goto i none
  | .startClear question eligible openedAt =>
    { s with answered := [] }.goto i (some (.startOpen question eligible openedAt))
  | .startOpen question eligible openedAt =>
    { s with
      buzzer := some (s.rounds + 1, openState question eligible openedAt)
      rounds := s.rounds + 1 }.goto i (some (.startTimer question))
  | .startTimer question =>
    let s := clearTimer s
    { s with
      buzzerTimers := some s.nextTimeout
      timeouts := s.timeouts ++ [(s.nextTimeout, question.id)]
      nextTimeout := s.nextTimeout + 1 }.goto i none
  | .answerRead a =>
    match s.buzzer with
    | some (_, b) =>
      if opensOn s.buzzer a.questionId ∧ a.client.user.sub ∈ b.eligibleUserIds then
        s.goto i (some (.answerMark a))
      else s.goto i none
    | none => s.goto i none
  | .answerMark a =>
    if a.client.user.sub ∈ s.answered then s.goto i (some (.answerExpire a false))
    else { s with answered := s.answered ++ [a.client.user.sub] }.goto i
      (some (.answerExpire a true))
  | .answerExpire a added => s.goto i (if added then some (.answerQuestion a) else none)
  | .answerQuestion a => s.goto i ((db.quizQuestion a.questionId).map (.answerPersist a))
  | .answerPersist a question =>
    -- a second row for one question and student is refused (P2002) and the refusal ignored
    let correct := isCorrect question a.answerIndex
    let row : QuizAnswer := ⟨a.questionId, a.client.user.sub, a.answerIndex, correct⟩
    let answers := if s.quizAnswers.any fun r =>
        r.questionId == a.questionId && r.studentId == a.client.user.sub
      then s.quizAnswers else s.quizAnswers ++ [row]
    { s with quizAnswers := answers }.goto i
      (if correct then some (.answerRecheck a question) else none)
  | .answerRecheck a question =>
    match s.buzzer with
    | some (round, latest) =>
      if latest.phase = .questionOpen then s.goto i (some (.answerClear a question round latest))
      else s.goto i none
    | none => s.goto i none
  | .answerClear a question round latest =>
    (clearTimer s).goto i (some (.answerWin a question round latest))
  | .answerWin a question round latest =>
    { s with buzzer := some (round, winnerState latest a.client) }.goto i
      ((awardCourse question).map (.answerAward a question round))
  | .answerAward a question round courseId =>
    let row : BuzzerWin := ⟨a.client.user.sub, courseId, question.points, a.questionId, round⟩
    { s with pointsLedger := s.pointsLedger ++ [row] }.goto i none
  | .timeoutRead q =>
    match s.buzzer with
    | some (round, b) =>
      if opensOn s.buzzer q then s.goto i (some (.timeoutWrite round b)) else s.goto i none
    | none => s.goto i none
  | .timeoutWrite round b => { s with buzzer := some (round, timeoutState b) }.goto i none

inductive Event
  /-- A `buzzer:start` message arrives; its handler is task `i`. -/
  | buzzerStart (i : Nat) (client : Client) (questionId : QuestionId)
  /-- A `quiz:answer` message arrives; its handler is task `i`. -/
  | quizAnswer (i : Nat) (attempt : Attempt)
  /-- Timeout `t` fires; `timeoutBuzzer` is task `i`. -/
  | fire (i t : Nat)
  /-- The call task `i` waits for takes effect, and the task runs on. -/
  | resume (i : Nat) (now : Nat)
  /-- The call task `i` waits for is rejected, and the task ends. -/
  | reject (i : Nat)
  /-- Joins and leaves change who is present. -/
  | presence (users : List RoomUser)
  deriving DecidableEq

def step (db : Db) (s : State) : Event → Option State
  | .buzzerStart i c q =>
    if s.tasks.get i = none then
      some (if mayHost c.user c.teaching then s.goto i (some (.startSession c q)) else s)
    else none
  | .quizAnswer i a =>
    if s.tasks.get i = none then
      some (if a.client.inRoom ∧ a.client.user.role = .student then
        s.goto i (some (.answerRead a)) else s)
    else none
  | .fire i t =>
    if s.tasks.get i = none then
      (s.timeouts.find? (·.1 = t)).map fun p =>
        { s with
          timeouts := s.timeouts.filter (·.1 ≠ t)
          buzzerTimers := none }.goto i (some (.timeoutRead p.2))
    else none
  | .resume i now => (s.tasks.get i).map (resume db now s i)
  | .reject i => (s.tasks.get i).map fun _ => s.goto i none
  | .presence users => some { s with presence := users }

end Livetich.Room.Buzzer
