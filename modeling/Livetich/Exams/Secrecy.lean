/-
Answer keys: `ExamsService.listAvailable`, `getReview` and the paper that `startAttempt` hands out. Two runs that differ
only in which options are right cannot be told apart by a student who has not handed the exam in.
-/
import Livetich.Exams.Sitting
import Livetich.Lib.Erasure

namespace Livetich.Exams

open TransSys Livetich.Lib

/-! ## What students are shown -/

structure MyAttempt where
  id : AttemptId
  score : Option Int
  submitted : Bool
  deriving DecidableEq

structure AvailableExam where
  id : ExamId
  title : String
  durationMinutes : Nat
  questionCount : Nat
  myAttempt : Option MyAttempt
  deriving DecidableEq

structure PaperQuestion where
  id : QuestionId
  body : String
  options : List String
  topic : Option String
  deriving DecidableEq

structure ReviewQuestion where
  id : QuestionId
  body : String
  options : List String
  correctIndex : Nat
  chosenIndex : Option Nat
  deriving DecidableEq

structure Review where
  examTitle : String
  score : Option Int
  total : Nat
  submittedAt : Option Nat
  questions : List ReviewQuestion
  deriving DecidableEq

def State.attemptsOf (s : State) (examId : ExamId) (studentId : UserId) : List (AttemptId × ExamAttempt) :=
  s.attempts.entries.filter fun e => e.2.of examId studentId

/-- The attempt begun last; of several begun at one time, the first. -/
def State.myAttempt (s : State) (examId : ExamId) (studentId : UserId) : Option MyAttempt :=
  (((s.attemptsOf examId studentId).mergeSort fun a b => decide (b.2.startedAt ≤ a.2.startedAt)).head?).map fun e =>
    ⟨e.1, e.2.score, e.2.submittedAt.isSome⟩

def State.available (s : State) (studentId : UserId) (e : ExamId × Exam) : AvailableExam :=
  ⟨e.1, e.2.title, e.2.durationMinutes, (s.questionsOf e.1).length, s.myAttempt e.1 studentId⟩

/-- The rows are kept in the order of their creation, and the newest exam is listed first. -/
def State.listAvailable (s : State) (user : JwtPayload) (courseId : CourseId) : Option (List AvailableExam) :=
  let among := if user.role = .student then s.access.enrolled else s.access.managers
  if among.contains (courseId, user.sub) then
    some ((s.exams.entries.reverse.filter fun e => e.2.courseId == courseId && e.2.active).map (s.available user.sub))
  else none

/-- The questions in the order of the paper. -/
def State.sorted (s : State) (examId : ExamId) : List (QuestionId × ExamQuestion) :=
  (s.questionsOf examId).mergeSort fun a b => decide (a.2.order ≤ b.2.order)

/-- The questions as `startAttempt` reads them. -/
def State.paper (s : State) (examId : ExamId) : List PaperQuestion :=
  (s.sorted examId).map fun q => ⟨q.1, q.2.body, q.2.options, q.2.topic⟩

def State.getReview (s : State) (user : JwtPayload) (examId : ExamId) : Option Review := do
  let submitted := (s.attemptsOf examId user.sub).filter fun e => e.2.submittedAt.isSome
  let attempt ← (submitted.mergeSort fun a b => decide (b.2.submittedAt.getD 0 ≤ a.2.submittedAt.getD 0)).head?
  let exam ← s.exams.get examId
  let chosen (id : QuestionId) := (((s.answersOf attempt.1).filter (·.questionId == id)).getLast?).map (·.chosenIndex)
  pure {
    examTitle := exam.title
    score := attempt.2.score
    total := (s.questionsOf examId).length
    submittedAt := attempt.2.submittedAt
    questions := (s.sorted examId).map fun q => ⟨q.1, q.2.body, q.2.options, q.2.correctIndex, chosen q.1⟩ }

/-! ## Without the keys and the scores -/

/-- The key of a question of `n` options, when only whether it is one of them may be told. -/
def sealed (n correctIndex : Nat) : Nat := if correctIndex < n then 0 else n

theorem sealed_lt {n correctIndex : Nat} : sealed n correctIndex < n ↔ correctIndex < n := by
  unfold sealed
  split <;> omega

def ExamQuestion.blank (q : ExamQuestion) : ExamQuestion :=
  { q with correctIndex := sealed q.options.length q.correctIndex }

def ExamQuestionDto.blank (q : ExamQuestionDto) : ExamQuestionDto :=
  { q with correctIndex := sealed q.options.length q.correctIndex }

def ExamAttempt.blank (row : ExamAttempt) : ExamAttempt := { row with score := row.score.map fun _ => 0 }

def UpdateExamDto.blank (dto : UpdateExamDto) : UpdateExamDto where
  title := dto.title
  durationMinutes := dto.durationMinutes
  questions := dto.questions.map (·.map ExamQuestionDto.blank)
  nonempty := by
    intro qs hqs
    obtain ⟨qs', hqs', rfl⟩ := Option.map_eq_some_iff.1 hqs
    simpa using dto.nonempty qs' hqs'

def Task.blank : Task → Task
  | .transaction attemptId chosen _ submittedAt => .transaction attemptId chosen 0 submittedAt
  | .manage user courseId examId dto => .manage user courseId examId dto.blank
  | .find courseId examId dto => .find courseId examId dto.blank
  | .deleteMany examId dto => .deleteMany examId dto.blank
  | .update examId dto => .update examId dto.blank
  | t => t

def After.blank : After → After
  | .next t => .next t.blank
  | r => r

def State.blank (s : State) : State :=
  { s with
    questions := s.questions.map ExamQuestion.blank
    attempts := s.attempts.map ExamAttempt.blank
    calls := s.calls.map Task.blank
    wrote := [] }

def Event.blank : Event → Event
  | .createExam examId exam questions => .createExam examId exam (questions.map ExamQuestionDto.blank)
  | .updateExam user courseId examId dto => .updateExam user courseId examId dto.blank
  | e => e

theorem sealed_sealed {n correctIndex : Nat} : sealed n (sealed n correctIndex) = sealed n correctIndex := by
  unfold sealed
  split
  · split <;> omega
  · split <;> omega

theorem ExamQuestion.blank_blank (q : ExamQuestion) : q.blank.blank = q.blank := by
  unfold ExamQuestion.blank
  simp only [sealed_sealed]

theorem ExamQuestionDto.blank_blank (q : ExamQuestionDto) : q.blank.blank = q.blank := by
  unfold ExamQuestionDto.blank
  simp only [sealed_sealed]

theorem ExamAttempt.blank_blank (row : ExamAttempt) : row.blank.blank = row.blank := by
  unfold ExamAttempt.blank
  cases row.score <;> rfl

theorem UpdateExamDto.blank_blank (dto : UpdateExamDto) : dto.blank.blank = dto.blank := by
  obtain ⟨title, durationMinutes, questions, nonempty⟩ := dto
  unfold UpdateExamDto.blank
  cases questions with
  | none => rfl
  | some qs =>
    have hqs : (qs.map ExamQuestionDto.blank).map ExamQuestionDto.blank = qs.map ExamQuestionDto.blank := by
      rw [List.map_map]
      exact List.map_congr_left fun q _ => q.blank_blank
    simp only [Option.map_some, hqs]

theorem Task.blank_blank (t : Task) : t.blank.blank = t.blank := by
  cases t <;> simp only [Task.blank, UpdateExamDto.blank_blank]

theorem State.blank_blank (s : State) : s.blank.blank = s.blank := by
  have hquestions : (s.questions.map ExamQuestion.blank).map ExamQuestion.blank = s.questions.map ExamQuestion.blank :=
    Table.map_map_self ExamQuestion.blank_blank _
  have hattempts : (s.attempts.map ExamAttempt.blank).map ExamAttempt.blank = s.attempts.map ExamAttempt.blank :=
    Table.map_map_self ExamAttempt.blank_blank _
  have hcalls : (s.calls.map Task.blank).map Task.blank = s.calls.map Task.blank :=
    Pool.map_map_self Task.blank_blank _
  unfold State.blank
  simp only [hquestions, hattempts, hcalls]

/-! ## What a step does without them -/

section Blank

variable {s s' : State}

@[simp] theorem exams_blank (s : State) : s.blank.exams = s.exams := rfl

@[simp] theorem answers_blank (s : State) : s.blank.answers = s.answers := rfl

@[simp] theorem nextId_blank (s : State) : s.blank.nextId = s.nextId := rfl

@[simp] theorem access_blank (s : State) : s.blank.access = s.access := rfl

theorem questionsOf_blank (s : State) (examId : ExamId) :
    s.blank.questionsOf examId = (s.questionsOf examId).map fun q => (q.1, q.2.blank) := by
  unfold State.questionsOf
  rw [show s.blank.questions = s.questions.map ExamQuestion.blank from rfl, Table.entries_map, List.filter_map]
  rfl

theorem attemptsOf_blank (s : State) (examId : ExamId) (studentId : UserId) :
    s.blank.attemptsOf examId studentId = (s.attemptsOf examId studentId).map fun e => (e.1, e.2.blank) := by
  unfold State.attemptsOf
  rw [show s.blank.attempts = s.attempts.map ExamAttempt.blank from rfl, Table.entries_map, List.filter_map]
  rfl

/-- What is asked of the attempts does not look at the scores. -/
theorem any_attempts_blank (s : State) {p : AttemptId × ExamAttempt → Bool} (hp : ∀ e, p (e.1, e.2.blank) = p e) :
    s.blank.attempts.entries.any p = s.attempts.entries.any p := by
  rw [show s.blank.attempts = s.attempts.map ExamAttempt.blank from rfl, Table.entries_map, List.any_map]
  exact congrArg _ (funext hp)

theorem sat_blank (s : State) (examId : ExamId) (studentId : UserId) :
    s.blank.sat examId studentId = s.sat examId studentId :=
  any_attempts_blank s fun _ => rfl

theorem attempted_blank (s : State) (examId : ExamId) : s.blank.attempted examId = s.attempted examId :=
  any_attempts_blank s fun _ => rfl

theorem get_attempts_blank (s : State) (a : AttemptId) :
    s.blank.attempts.get a = (s.attempts.get a).map ExamAttempt.blank := Table.get_map _ _ _

theorem get_questions_blank (s : State) (q : QuestionId) :
    s.blank.questions.get q = (s.questions.get q).map ExamQuestion.blank := Table.get_map _ _ _

theorem chosenOf_blank (questions : List (QuestionId × ExamQuestion)) (answers : List ExamAnswerDto) :
    chosenOf (questions.map fun q => (q.1, q.2.blank)) answers = chosenOf questions answers := by
  unfold chosenOf
  rw [List.filterMap_map]
  rfl

/-- Two states that cannot be told apart are written to alike. -/
theorem blank_write (h : s.blank = s'.blank) {exams : Table ExamId Exam}
    {questions questions' : Table QuestionId ExamQuestion} {attempts attempts' : Table AttemptId ExamAttempt}
    {answers : List ExamAnswer} {nextId : Nat}
    (hquestions : questions.map ExamQuestion.blank = questions'.map ExamQuestion.blank)
    (hattempts : attempts.map ExamAttempt.blank = attempts'.map ExamAttempt.blank) :
    ({ s with exams, questions, attempts, answers, nextId } : State).blank =
      ({ s' with exams, questions := questions', attempts := attempts', answers, nextId } : State).blank := by
  have hwrite : ∀ (u : State) (questions : Table QuestionId ExamQuestion) (attempts : Table AttemptId ExamAttempt),
      ({ u with exams, questions, attempts, answers, nextId } : State).blank =
        { u.blank with
          exams, answers, nextId
          questions := questions.map ExamQuestion.blank
          attempts := attempts.map ExamAttempt.blank } := fun _ _ _ => rfl
  rw [hwrite, hwrite, h, hquestions, hattempts]

/-- The rows of a state are as they are without their secrets. -/
theorem rows_blank (s : State) : s.questions.map ExamQuestion.blank = s.blank.questions.map ExamQuestion.blank ∧
    s.attempts.map ExamAttempt.blank = s.blank.attempts.map ExamAttempt.blank :=
  ⟨(Table.map_map_self ExamQuestion.blank_blank _).symm, (Table.map_map_self ExamAttempt.blank_blank _).symm⟩

theorem addQuestions_blank {examId : ExamId} : ∀ {qs : List ExamQuestionDto} {t : Table QuestionId ExamQuestion}
    {id : QuestionId} {order : Nat}, (addQuestions examId t id order qs).map ExamQuestion.blank =
      addQuestions examId (t.map ExamQuestion.blank) id order (qs.map ExamQuestionDto.blank)
  | [], _, _, _ => rfl
  | q :: qs, t, id, order => by
    rw [List.map_cons, addQuestions, addQuestions, addQuestions_blank, Table.map_insert]
    rfl

theorem submit_blank (s : State) (attemptId : AttemptId) (chosen : List (QuestionId × Nat)) (score : Int)
    (submittedAt : Nat) : (s.submit attemptId chosen score submittedAt).map State.blank =
      (s.blank.submit attemptId chosen 0 submittedAt).map State.blank := by
  have hgone : ∀ c : QuestionId × Nat, (s.blank.questions.get c.1).isNone = (s.questions.get c.1).isNone := by
    intro c
    rw [get_questions_blank, Option.isNone_map]
  unfold State.submit
  simp only [hgone]
  split
  · rfl
  · have hmodify : ∀ (t : Table AttemptId ExamAttempt) (score : Int), (t.modify attemptId fun row =>
        { row with submittedAt := some submittedAt, score := some score }).map ExamAttempt.blank =
          (t.map ExamAttempt.blank).modify attemptId fun row =>
            { row with submittedAt := some submittedAt, score := some 0 } := by
      intro t score
      apply Table.map_modify
      intro row
      rfl
    refine congrArg some (blank_write s.blank_blank.symm (rows_blank s).1 ?_)
    rw [hmodify, hmodify, (rows_blank s).2]

theorem deleteQuestions_blank (s : State) (examId : ExamId) :
    (s.deleteQuestions examId).map State.blank = (s.blank.deleteQuestions examId).map State.blank := by
  have hof : ∀ a : ExamAnswer, (s.blank.questions.get a.questionId).any (·.examId == examId) =
      (s.questions.get a.questionId).any (·.examId == examId) := by
    intro a
    rw [get_questions_blank, Option.any_map]
    rfl
  unfold State.deleteQuestions
  simp only [answers_blank, hof]
  split
  · rfl
  · have hfilter : ∀ t : Table QuestionId ExamQuestion,
        (t.filter fun _ q => q.examId != examId).map ExamQuestion.blank =
          (t.map ExamQuestion.blank).filter fun _ q => q.examId != examId := fun t => t.map_filter fun _ _ => rfl
    refine congrArg some (blank_write s.blank_blank.symm ?_ (rows_blank s).2)
    rw [hfilter, hfilter, (rows_blank s).1]

/-- New questions that differ in their keys only. -/
theorem add_blank (s : State) (examId : ExamId) (qs : List ExamQuestionDto) :
    (addQuestions examId s.questions s.nextId 0 qs).map ExamQuestion.blank =
      (addQuestions examId s.blank.questions s.nextId 0 (qs.map ExamQuestionDto.blank)).map ExamQuestion.blank := by
  have htwice : (qs.map ExamQuestionDto.blank).map ExamQuestionDto.blank = qs.map ExamQuestionDto.blank := by
    rw [List.map_map]
    exact List.map_congr_left fun q _ => q.blank_blank
  rw [addQuestions_blank, addQuestions_blank, htwice, (rows_blank s).1]

theorem update_blank (s : State) (examId : ExamId) (dto : UpdateExamDto) :
    (s.update examId dto).blank = (s.blank.update examId dto.blank).blank := by
  have hqs : dto.blank.questions.getD [] = (dto.questions.getD []).map ExamQuestionDto.blank := by
    show (dto.questions.map _).getD [] = _
    cases dto.questions <;> rfl
  unfold State.update
  dsimp only
  rw [hqs, List.length_map]
  exact blank_write s.blank_blank.symm (add_blank s examId _) (rows_blank s).2

theorem create_blank (s : State) (row : ExamAttempt) :
    ({ s with attempts := s.attempts.insert s.nextId row, nextId := s.nextId + 1 } : State).blank =
      ({ s.blank with attempts := s.blank.attempts.insert s.nextId row, nextId := s.nextId + 1 } : State).blank := by
  refine blank_write s.blank_blank.symm (rows_blank s).1 ?_
  rw [Table.map_insert, Table.map_insert, (rows_blank s).2]

/-- Two outcomes that cannot be told apart. -/
def Same (r r' : State × After) : Prop := r.1.blank = r'.1.blank ∧ r.2.blank = r'.2.blank

/-- A task that only reads goes on alike. -/
theorem same_read (s : State) {r r' : After} (h : r.blank = r'.blank) : Same (s, r) (s.blank, r') :=
  ⟨s.blank_blank.symm, h⟩

theorem Same.ite {p : Prop} [Decidable p] {a a' b b' : State × After} (h : Same a a') (h' : Same b b') :
    Same (if p then a else b) (if p then a' else b') := by
  split
  · exact h
  · exact h'

theorem same_attempt (s : State) (now : Nat) (user : JwtPayload) (attemptId : AttemptId)
    (answers : List ExamAnswerDto) :
    Same (act s now (.attempt user attemptId answers)) (act s.blank now (.attempt user attemptId answers)) := by
  simp only [act, get_attempts_blank, exams_blank, questionsOf_blank, chosenOf_blank]
  cases s.attempts.get attemptId with
  | none => exact same_read s rfl
  | some row =>
    simp only [Option.map_some]
    have hexam : row.blank.examId = row.examId := rfl
    have hrest : row.blank.studentId = row.studentId ∧ row.blank.submittedAt = row.submittedAt ∧
        row.blank.startedAt = row.startedAt := ⟨rfl, rfl, rfl⟩
    rw [hexam, hrest.1, hrest.2.1, hrest.2.2]
    cases s.exams.get row.examId with
    | none => exact same_read s rfl
    | some exam =>
      -- the scores differ, and wait in the transactions
      exact .ite (same_read s rfl) (.ite (same_read s rfl) (same_read s rfl))

theorem same_find (s : State) (now : Nat) (courseId : CourseId) (examId : ExamId) (dto : UpdateExamDto) :
    Same (act s now (.find courseId examId dto)) (act s.blank now (.find courseId examId dto.blank)) := by
  have hvalid : ∀ qs : List ExamQuestionDto,
      (qs.map ExamQuestionDto.blank).all (fun q => decide (q.correctIndex < q.options.length)) =
        qs.all fun q => decide (q.correctIndex < q.options.length) := by
    intro qs
    rw [List.all_map]
    refine congrArg _ (funext fun q => ?_)
    exact decide_eq_decide.2 sealed_lt
  have hqs : dto.blank.questions = dto.questions.map (·.map ExamQuestionDto.blank) := rfl
  simp only [act, exams_blank, attempted_blank, hqs]
  cases s.exams.get examId with
  | none => exact same_read s rfl
  | some exam =>
    refine .ite (same_read s rfl) ?_
    cases dto.questions with
    | none =>
      refine same_read s ?_
      simp only [After.blank, Task.blank, dto.blank_blank]
    | some qs =>
      simp only [Option.map_some, hvalid]
      refine .ite (same_read s rfl) (same_read s ?_)
      simp only [After.blank, Task.blank, dto.blank_blank]

theorem act_blank (s : State) (now : Nat) (t : Task) : Same (act s now t) (act s.blank now t.blank) := by
  cases t with
  | attempt user attemptId answers => exact same_attempt s now user attemptId answers
  | find courseId examId dto => exact same_find s now courseId examId dto
  | exam user examId =>
    simp only [act, Task.blank, exams_blank]
    cases s.exams.get examId with
    | none => exact same_read s rfl
    | some exam => exact .ite (same_read s rfl) (same_read s rfl)
  | access user examId exam =>
    simp only [act, Task.blank, access_blank]
    exact .ite (same_read s rfl) (same_read s rfl)
  | resumable user examId =>
    have hopen := any_attempts_blank s (p := fun e => e.2.of examId user.sub && e.2.submittedAt.isNone) fun _ => rfl
    simp only [act, Task.blank, hopen]
    exact .ite (same_read s rfl) (same_read s rfl)
  | alreadySat user examId =>
    simp only [act, Task.blank, sat_blank]
    exact .ite (same_read s rfl) (same_read s rfl)
  | create user examId =>
    simp only [act, Task.blank, exams_blank]
    exact .ite (same_read s rfl) ⟨create_blank s _, rfl⟩
  | transaction attemptId chosen score submittedAt =>
    have hsubmit := submit_blank s attemptId chosen score submittedAt
    simp only [act, Task.blank]
    cases h : s.submit attemptId chosen score submittedAt with
    | none =>
      rw [h, Option.map_none, eq_comm, Option.map_eq_none_iff] at hsubmit
      rw [hsubmit]
      exact same_read s rfl
    | some s' =>
      rw [h, Option.map_some, eq_comm] at hsubmit
      obtain ⟨u, hu, hs'⟩ := Option.map_eq_some_iff.1 hsubmit
      rw [hu]
      exact ⟨hs'.symm, rfl⟩
  | manage user courseId examId dto =>
    simp only [act, Task.blank, access_blank]
    refine .ite (same_read s ?_) (same_read s rfl)
    simp only [After.blank, Task.blank, dto.blank_blank]
  | deleteMany examId dto =>
    have hdelete := deleteQuestions_blank s examId
    simp only [act, Task.blank]
    cases h : s.deleteQuestions examId with
    | none =>
      rw [h, Option.map_none, eq_comm, Option.map_eq_none_iff] at hdelete
      rw [hdelete]
      exact same_read s rfl
    | some s' =>
      rw [h, Option.map_some, eq_comm] at hdelete
      obtain ⟨u, hu, hs'⟩ := Option.map_eq_some_iff.1 hdelete
      rw [hu]
      exact ⟨hs'.symm, by simp only [After.blank, Task.blank, dto.blank_blank]⟩
  | update examId dto => exact ⟨update_blank s examId dto, rfl⟩

theorem After.task_blank (r : After) : r.blank.task = r.task.map Task.blank := by
  cases r <;> rfl

theorem After.failed_blank (r : After) : r.blank = .failed ↔ r = .failed := by
  cases r <;> simp [After.blank]

theorem settle_blank {i : Nat} {r r' : State × After} (hfailed : s.failed = s'.failed) (h : Same r r') :
    (s.settle i r).blank = (s'.settle i r').blank := by
  obtain ⟨hstate, hafter⟩ := h
  have htask : r.2.task.map Task.blank = r'.2.task.map Task.blank := by
    rw [← After.task_blank, ← After.task_blank, hafter]
  have hfails : r.2 = .failed ↔ r'.2 = .failed := by
    rw [← After.failed_blank, ← After.failed_blank r'.2, hafter]
  have hcalls : r.1.calls.map Task.blank = r'.1.calls.map Task.blank := congrArg State.calls hstate
  have hput : ∀ (u : State) (a : After) (failed wrote : List Nat),
      ({ u with calls := u.calls.put i a.task, failed, wrote } : State).blank =
        { u.blank with calls := (u.calls.map Task.blank).put i (a.task.map Task.blank), failed } := by
    intro u a failed wrote
    rw [← Pool.map_put]
    rfl
  unfold State.settle
  rw [hput, hput, hstate, htask, hcalls, hfailed]
  simp only [hfails]

theorem begin_blank (s : State) (t : Task) : (s.begin t).blank = (s.blank.begin t.blank).blank := by
  have hput : ∀ (u : State) (t : Task), (u.begin t).blank =
      { u.blank with calls := (u.calls.map Task.blank).put u.nextCall (some t.blank), nextCall := u.nextCall + 1 } := by
    intro u t
    rw [← Option.map_some, ← Pool.map_put]
    rfl
  rw [hput, hput, s.blank_blank, t.blank_blank]
  exact congrArg (fun calls : Pool Task => ({ s.blank with calls := calls.put _ _, nextCall := _ } : State))
    (Pool.map_map_self Task.blank_blank s.calls).symm

theorem step_blank : Erasure.Blind step State.blank Event.blank := by
  intro s e
  have hresume : ∀ (i : Nat) (f f' : Task → State × After), (∀ t, Same (f t) (f' t.blank)) →
      ((s.calls.get i).map fun t => s.settle i (f t)).map State.blank =
        ((s.blank.calls.get i).map fun t => s.blank.settle i (f' t)).map State.blank := by
    intro i f f' hf
    rw [show s.blank.calls = s.calls.map Task.blank from rfl, Pool.get_map]
    cases s.calls.get i with
    | none => rfl
    | some t => exact congrArg some (settle_blank rfl (hf t))
  cases e with
  | createExam examId exam questions =>
    unfold step Event.blank
    simp only [exams_blank, nextId_blank, List.length_map]
    split
    · rfl
    · exact congrArg some (blank_write s.blank_blank.symm (add_blank s examId questions) (rows_blank s).2)
  | startAttempt user examId => exact congrArg some (begin_blank s _)
  | submit user attemptId answers => exact congrArg some (begin_blank s _)
  | updateExam user courseId examId dto => exact congrArg some (begin_blank s _)
  | resume i now => exact hresume i _ _ fun t => act_blank s now t
  | fail i => exact hresume i _ _ fun t => same_read s rfl
  | change access =>
    have hchange : ∀ u : State, ({ u with access } : State).blank = { u.blank with access } := fun _ => rfl
    exact congrArg some (by rw [hchange, hchange, s.blank_blank])

end Blank

/-! ## What is shown does not depend on them -/

/-- An attempt that is not handed in has no score. -/
def Ungraded (s : State) : Prop := ∀ a row, s.attempts.get a = some row → row.submittedAt = none → row.score = none

theorem ungraded_init (access : Access) : Ungraded (init access) := by
  intro a row h
  cases h

theorem ungraded_step {s s' : State} {e : Event} (hs : Ungraded s) (h : step s e = some s') : Ungraded s' := by
  have hsame : s'.attempts = s.attempts → Ungraded s' := by
    intro hattempts a row hrow
    rw [hattempts] at hrow
    exact hs a row hrow
  cases e with
  | createExam examId exam questions =>
    rw [step] at h
    split at h
    · cases h
    · cases h
      exact hsame rfl
  | startAttempt user examId =>
    cases h
    exact hsame rfl
  | submit user attemptId answers =>
    cases h
    exact hsame rfl
  | updateExam user courseId examId dto =>
    cases h
    exact hsame rfl
  | change access =>
    cases h
    exact hsame rfl
  | fail i =>
    obtain ⟨t, -, rfl⟩ := Option.map_eq_some_iff.1 h
    exact hsame rfl
  | resume i now =>
    obtain ⟨t, -, rfl⟩ := Option.map_eq_some_iff.1 h
    have hattempts : (s.settle i (act s now t)).attempts = (act s now t).1.attempts := rfl
    rcases act_rows s now t with hact | ⟨user, examId, -, -, hact⟩ | ⟨attemptId, chosen, score, submittedAt, -, hact⟩ |
      ⟨examId, dto, -, hact⟩ | ⟨examId, dto, -, hact⟩
    · exact hsame (by rw [hattempts, hact])
    · intro a row hrow
      rw [hattempts, hact] at hrow
      rcases Table.get_insert_cases hrow with hold | ⟨-, rfl⟩
      · exact hs a row hold
      · exact fun _ => rfl
    · intro a row hrow hopen
      rw [hattempts, (submit_rows hact).2.2] at hrow
      by_cases ha : a = attemptId
      · subst ha
        rw [Table.get_modify_self] at hrow
        obtain ⟨old, -, rfl⟩ := Option.map_eq_some_iff.1 hrow
        cases hopen
      · rw [Table.get_modify_of_ne _ _ ha] at hrow
        exact hs a row hrow hopen
    · exact hsame (by rw [hattempts, (deleteQuestions_rows hact).2.1])
    · exact hsame (by rw [hattempts, hact]; rfl)

section Views

variable {s : State}

theorem sorted_blank (s : State) (examId : ExamId) :
    s.blank.sorted examId = (s.sorted examId).map fun q => (q.1, q.2.blank) := by
  unfold State.sorted
  rw [questionsOf_blank, ← List.map_mergeSort]
  intro a _ b _
  rfl

theorem paper_blank (s : State) (examId : ExamId) : s.blank.paper examId = s.paper examId := by
  unfold State.paper
  rw [sorted_blank, List.map_map]
  rfl

/-- A student who has not handed the exam in has nothing to review. -/
theorem getReview_eq_none {user : JwtPayload} {examId : ExamId} (h : s.sat examId user.sub = false) :
    s.getReview user examId = none := by
  have hnone : (s.attemptsOf examId user.sub).filter (fun e => e.2.submittedAt.isSome) = [] := by
    unfold State.sat at h
    rw [List.filter_eq_nil_iff]
    intro e he
    obtain ⟨he, hof⟩ := List.mem_filter.1 he
    have := List.any_eq_false.1 h e he
    rwa [hof, Bool.true_and] at this
  unfold State.getReview
  simp only [hnone, List.mergeSort_nil, List.head?_nil]
  rfl

/-- Nor is there a score for them to see. -/
theorem myAttempt_blank {examId : ExamId} {studentId : UserId} (hs : Ungraded s)
    (h : s.sat examId studentId = false) : s.blank.myAttempt examId studentId = s.myAttempt examId studentId := by
  unfold State.myAttempt
  have hsort : ((s.attemptsOf examId studentId).map fun e => (e.1, e.2.blank)).mergeSort
      (fun a b => decide (b.2.startedAt ≤ a.2.startedAt)) =
        ((s.attemptsOf examId studentId).mergeSort fun a b => decide (b.2.startedAt ≤ a.2.startedAt)).map fun e =>
          (e.1, e.2.blank) := by
    rw [← List.map_mergeSort]
    intro a _ b _
    rfl
  rw [attemptsOf_blank, hsort, List.head?_map, Option.map_map]
  refine Option.map_congr fun e he => ?_
  have hmem : e ∈ s.attemptsOf examId studentId := List.mem_mergeSort.1 (List.mem_of_mem_head? he)
  obtain ⟨hmem, hof⟩ := List.mem_filter.1 hmem
  have hopen : e.2.submittedAt = none := by
    have := List.any_eq_false.1 h e hmem
    rw [hof, Bool.true_and] at this
    exact Option.not_isSome_iff_eq_none.1 this
  have hscore : e.2.score = none := hs e.1 e.2 (Table.get_of_mem hmem) hopen
  show (⟨e.1, e.2.score.map _, _⟩ : MyAttempt) = _
  rw [hscore]
  rfl

theorem available_blank {studentId : UserId} {e : ExamId × Exam} (hs : Ungraded s)
    (h : s.sat e.1 studentId = false) : s.blank.available studentId e = s.available studentId e := by
  unfold State.available
  rw [myAttempt_blank hs h, questionsOf_blank, List.length_map]

end Views

/-- What a student who has not handed in `examId` gets to see in two states. -/
structure Hidden (s t : State) (user : JwtPayload) (examId : ExamId) : Prop where
  paper : s.paper examId = t.paper examId
  review : s.getReview user examId = none ∧ t.getReview user examId = none
  listed : ∀ courseId, (s.listAvailable user courseId).map (·.filter fun e => e.id == examId) =
    (t.listAvailable user courseId).map (·.filter fun e => e.id == examId)

theorem hidden_of_blank {s t : State} (hs : Ungraded s) (ht : Ungraded t) (h : s.blank = t.blank) {user : JwtPayload}
    {examId : ExamId} (hsat : s.sat examId user.sub = false) : Hidden s t user examId := by
  have htsat : t.sat examId user.sub = false := by rw [← sat_blank, ← h, sat_blank, hsat]
  refine ⟨?_, ⟨getReview_eq_none hsat, getReview_eq_none htsat⟩, fun courseId => ?_⟩
  · rw [← paper_blank s, h, paper_blank]
  · have hexams : s.exams = t.exams := (exams_blank s).symm.trans (h ▸ rfl)
    have haccess : s.access = t.access := (access_blank s).symm.trans (h ▸ rfl)
    have hentries : ∀ es : List (ExamId × Exam), (es.map (s.available user.sub)).filter (fun e => e.id == examId) =
        (es.map (t.available user.sub)).filter fun e => e.id == examId := by
      intro es
      rw [List.filter_map, List.filter_map]
      refine List.map_congr_left fun e he => ?_
      have hid : e.1 = examId := beq_iff_eq.1 (List.mem_filter.1 he).2
      rw [← available_blank hs (by rw [hid, hsat]), h, available_blank ht (by rw [hid, htsat])]
    unfold State.listAvailable
    rw [haccess, hexams]
    generalize (if user.role = .student then t.access.enrolled else t.access.managers) = among
    dsimp only
    split
    · exact congrArg some (hentries _)
    · rfl

/-- Two runs whose events differ only in which options are right: each student who has not handed an exam in is shown
the same paper of it, no review, and the same entry in the list, and has handed in the same exams. -/
theorem keys_hidden {access : Access} {es es' : List Event} (hes : es.map Event.blank = es'.map Event.blank) {s : State}
    (h : run step (init access) es = some s) : ∃ t, run step (init access) es' = some t ∧ t.failed = s.failed ∧
      ∀ user examId, t.sat examId user.sub = s.sat examId user.sub ∧
        (s.sat examId user.sub = false → Hidden s t user examId) := by
  obtain ⟨t, ht, heq⟩ := step_blank.run hes rfl h
  have hs : Ungraded s := run_keeps (fun _ _ _ => ungraded_step) (ungraded_init access) h
  have hts : Ungraded t := run_keeps (fun _ _ _ => ungraded_step) (ungraded_init access) ht
  refine ⟨t, ht, (congrArg State.failed heq).symm, fun user examId => ⟨?_, hidden_of_blank hs hts heq⟩⟩
  rw [← sat_blank t, ← heq, sat_blank]

/-! ### Two keys -/

namespace Example

/-- The exam with another key. -/
def otherwise : List Event := [.createExam "exam" ⟨"c", "Algebra", 60, true⟩ [⟨"1 + 1", ["1", "2"], 0, none⟩]]

/-- Amina starts, and her answer waits to be written. -/
def answering : List Event :=
  [.startAttempt student "exam"] ++ List.replicate 5 (.resume 0 0) ++ [.submit student 1 [⟨0, 1⟩], .resume 1 9]

end Example

open Example in
/-- Until the submission is written nothing tells the keys apart; then the scores do. -/
theorem answering_hidden : ∃ s t, run step (init Example.access) (opened ++ answering) = some s ∧
    run step (init Example.access) (otherwise ++ answering) = some t ∧ Hidden s t student "exam" ∧
    ((run step s [.resume 1 9]).map scores, (run step t [.resume 1 9]).map scores) =
      (some (some (some 100), none), some (some (some 0), none)) := by
  have hrun : (run step (init Example.access) (opened ++ answering)).map (fun s =>
      (s.sat "exam" "amina", (run step s [.resume 1 9]).map scores)) = some (false, some (some (some 100), none)) := by
    decide +kernel
  have hrun' : (run step (init Example.access) (otherwise ++ answering)).map (fun t =>
      (run step t [.resume 1 9]).map scores) = some (some (some (some 0), none)) := by
    decide +kernel
  obtain ⟨s, hs, hobs⟩ := Option.map_eq_some_iff.1 hrun
  obtain ⟨hsat, hscores⟩ := Prod.mk.inj hobs
  obtain ⟨t, ht, -, hall⟩ := @keys_hidden Example.access (opened ++ answering) (otherwise ++ answering) rfl s hs
  rw [ht, Option.map_some, Option.some.injEq] at hrun'
  exact ⟨s, t, hs, ht, (hall student "exam").2 hsat, by rw [hscores, hrun']⟩

end Livetich.Exams
