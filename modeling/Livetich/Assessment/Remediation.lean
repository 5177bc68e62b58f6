/-
What a submission of an assessment leads to: the loops of `AssessmentService.submit` over the answers and over the
questions, and `routeRemediation` after its transaction. Each call is one step here, between which tasks, questions,
enrolments and assessments change.
-/
import Mathlib.Data.List.Induction
import Livetich.Assessment.Submit
import Livetich.Lib.Checked
import Livetich.Lib.Filled

namespace Livetich.Assessment

open TransSys Livetich.Lib Livetich.Points

abbrev TaskId := String

inductive HttpError
  | notFound (message : String)
  | forbidden (message : String)
  /-- A key that the transaction breaks. -/
  | database
  deriving DecidableEq

abbrev Result := Except HttpError

structure RemediationTask where
  courseId : CourseId
  sectionId : SectionId
  title : String
  active : Bool
  deriving DecidableEq

inductive RemediationStatus
  | pending
  | done
  deriving DecidableEq

structure AssignedRemediation where
  studentId : UserId
  taskId : TaskId
  attemptId : AttemptId
  sectionId : SectionId
  status : RemediationStatus
  deriving DecidableEq

structure Db extends State where
  tasks : Table TaskId RemediationTask
  assigned : List AssignedRemediation

/-! ## Grading -/

/-- `answerByQuestion`: only answers that belong to this assessment, and the last write wins. -/
def answerByQuestion (questions : List (QuestionId × AssessmentQuestion)) (answers : List AttemptAnswerDto) :
    Table QuestionId Int :=
  Table.setAll (·.questionId) (·.answerIndex) (answers.filter fun a => questions.any (·.1 == a.questionId))

/-- One round of the loop over the questions. -/
def gradeQuestion (answers : Table QuestionId Int) (g : Graded) (q : QuestionId × AssessmentQuestion) : Graded :=
  match answers.get q.1 with
  | none => { g with wrongSections := addSection g.wrongSections q.2.sectionId }
  | some answerIndex =>
    let isCorrect := answerIndex == q.2.correctIndex
    { responses := g.responses ++ [(q.1, answerIndex, isCorrect)]
      wrongSections := if isCorrect then g.wrongSections else addSection g.wrongSections q.2.sectionId
      score := if isCorrect then g.score + 1 else g.score }

def grade (questions : List (QuestionId × AssessmentQuestion)) (answers : List AttemptAnswerDto) : Graded :=
  questions.foldl (gradeQuestion (answerByQuestion questions answers)) ⟨[], [], 0⟩

/-! ## Remediation -/

/-- `createMany` with `skipDuplicates`, under the key on attempt and task. -/
def createMany (rows : List AssignedRemediation) : List AssignedRemediation → List AssignedRemediation
  | [] => rows
  | row :: new =>
    createMany (if rows.any fun x => x.attemptId == row.attemptId && x.taskId == row.taskId then rows
      else rows ++ [row]) new

/-- For each missed section, its active remediation tasks, by id and title. -/
def routeRemediation (db : Db) (courseId : CourseId) (studentId : UserId) (attemptId : AttemptId)
    (sectionIds : List SectionId) : Db × List (TaskId × String) :=
  if sectionIds = [] then (db, [])
  else
    let tasks := db.tasks.entries.filter fun t =>
      t.2.courseId == courseId && t.2.active && sectionIds.contains t.2.sectionId
    if tasks = [] then (db, [])
    else
      ({ db with
        assigned := createMany db.assigned (tasks.map fun t => ⟨studentId, t.1, attemptId, t.2.sectionId, .pending⟩) },
        tasks.map fun t => (t.1, t.2.title))

/-! ## The calls -/

structure Submitted where
  score : Nat
  total : Nat
  assignedRemediation : List (TaskId × String)
  deriving DecidableEq

/-- The questions of the assessment that there are. -/
def Site.questionsOf (site : Site) (a : Assessment) : List (QuestionId × AssessmentQuestion) :=
  site.bank.entries.filter fun q => (a.questionIds.getD []).contains q.1

def submit (db : Db) (user : UserId) (assessmentId : AssessmentId) (answers : List AttemptAnswerDto) (now : Nat) :
    Result (Db × Submitted) := do
  let a ← orThrow (db.site.assessments assessmentId) (.notFound "Assessment not found")
  ensure (a.released = true) (.notFound "Assessment not found")
  ensure ((a.courseId, user) ∈ db.site.enrolled) (.forbidden "Not enrolled in this program")
  ensure (((db.find assessmentId user).bind db.attempts.get).any (·.submittedAt.isSome) = false)
    (.forbidden "You have already submitted this assessment")
  let questions := db.site.questionsOf a
  let g := grade questions answers
  let attempt ← orThrow (db.toState.submit user assessmentId a.courseId g questions.length now) .database
  let routed := routeRemediation { db with toState := attempt.1 } a.courseId user attempt.2 g.wrongSections
  return (routed.1, ⟨g.score, questions.length, routed.2⟩)

inductive Call
  | submit (user : UserId) (assessmentId : AssessmentId) (answers : List AttemptAnswerDto) (now : Nat)
  /-- `markRemediationDone`. -/
  | markRemediationDone (user : UserId) (attemptId : AttemptId) (taskId : TaskId)
  /-- Tasks are written, and what other services write changes. -/
  | change (tasks : Table TaskId RemediationTask) (site : Site)

def Db.markDone (db : Db) (user : UserId) (attemptId : AttemptId) (taskId : TaskId) : Db :=
  { db with assigned := db.assigned.map fun x =>
      if x.studentId = user ∧ x.attemptId = attemptId ∧ x.taskId = taskId then { x with status := .done } else x }

/-- A call that throws leaves the tables as they are. -/
def call (db : Db) : Call → Option Db
  | .submit user assessmentId answers now =>
    some (((submit db user assessmentId answers now).toOption.map (·.1)).getD db)
  | .markRemediationDone user attemptId taskId => some (db.markDone user attemptId taskId)
  | .change tasks site => some { db with tasks, site }

/-- No attempt yet, and nothing assigned. -/
def start (site : Site) (tasks : Table TaskId RemediationTask) : Db where
  toState := init 0 [] site
  tasks := tasks
  assigned := []

/-! ## What the loops find -/

/-- A question that was left unanswered or answered wrongly. -/
def Missed (answers : List AttemptAnswerDto) (q : QuestionId × AssessmentQuestion) : Prop :=
  answerOf answers q.1 ≠ some q.2.correctIndex

instance (answers : List AttemptAnswerDto) (q : QuestionId × AssessmentQuestion) : Decidable (Missed answers q) :=
  inferInstanceAs (Decidable (_ ≠ _))

/-- The response to a question that was answered. -/
def response (answers : List AttemptAnswerDto) (q : QuestionId × AssessmentQuestion) :
    Option (QuestionId × Int × Bool) :=
  (answerOf answers q.1).map fun i => (q.1, i, i == q.2.correctIndex)

theorem get_answerByQuestion {questions : List (QuestionId × AssessmentQuestion)} {q : QuestionId × AssessmentQuestion}
    (hq : q ∈ questions) (answers : List AttemptAnswerDto) :
    (answerByQuestion questions answers).get q.1 = answerOf answers q.1 := by
  unfold answerByQuestion answerOf
  rw [Table.get_setAll, List.filter_filter]
  congr 2
  refine List.filter_congr fun a _ => ?_
  by_cases ha : a.questionId = q.1
  · have hany : questions.any (fun p => p.1 == a.questionId) = true :=
      List.any_eq_true.2 ⟨q, hq, by rw [ha]; exact beq_self_eq_true _⟩
    rw [hany, ha]
    simp
  · simp [ha]

theorem grade_eq (questions : List (QuestionId × AssessmentQuestion)) (answers : List AttemptAnswerDto) :
    grade questions answers = gradeAll answers questions := by
  unfold grade gradeAll
  refine List.foldl_ext _ _ _ fun g q hq => ?_
  unfold gradeQuestion gradeOne
  cases hanswer : answerOf answers q.1 with
  | none => rw [get_answerByQuestion hq, hanswer]
  | some i => rw [get_answerByQuestion hq, hanswer]

theorem mem_addSection {sections : List SectionId} {id x : SectionId} :
    x ∈ addSection sections id ↔ x ∈ sections ∨ x = id := by
  unfold addSection
  split
  · rename_i hin
    rw [List.contains_iff_mem] at hin
    refine ⟨.inl, ?_⟩
    rintro (h | rfl)
    · exact h
    · exact hin
  · simp

/-- What the loop has found after some questions. -/
structure Found (answers : List AttemptAnswerDto) (questions : List (QuestionId × AssessmentQuestion)) (g : Graded) :
    Prop where
  responses : g.responses = questions.filterMap (response answers)
  wrongSections : ∀ x, x ∈ g.wrongSections ↔ ∃ q ∈ questions, Missed answers q ∧ q.2.sectionId = x
  score : g.score = questions.countP fun q => ¬Missed answers q

theorem Found.gradeOne {answers : List AttemptAnswerDto} {questions : List (QuestionId × AssessmentQuestion)}
    {g : Graded} (h : Found answers questions g) (q : QuestionId × AssessmentQuestion) :
    Found answers (questions ++ [q]) (gradeOne answers g q) := by
  have hmem : ∀ x, (∃ p ∈ questions ++ [q], Missed answers p ∧ p.2.sectionId = x) ↔
      x ∈ g.wrongSections ∨ (Missed answers q ∧ q.2.sectionId = x) := by
    intro x
    rw [h.wrongSections]
    simp only [List.mem_append, List.mem_singleton, or_and_right, exists_or, exists_eq_left]
  unfold Assessment.gradeOne
  cases hanswer : answerOf answers q.1 with
  | none =>
    have hmissed : Missed answers q := by
      unfold Missed
      rw [hanswer]
      exact Option.some_ne_none _ |>.symm
    refine ⟨?_, fun x => ?_, ?_⟩
    · simp [h.responses, response, hanswer]
    · rw [hmem, mem_addSection]
      simp [hmissed, eq_comm]
    · simp [h.score, hmissed]
  | some i =>
    by_cases hi : i = q.2.correctIndex
    · have hright : ¬Missed answers q := by
        unfold Missed
        rw [hanswer, hi]
        exact fun hne => hne rfl
      refine ⟨?_, fun x => ?_, ?_⟩
      · simp [h.responses, response, hanswer]
      · rw [hmem]
        simp [hi, hright]
      · simp [h.score, hi, hright]
    · have hmissed : Missed answers q := by
        unfold Missed
        rw [hanswer]
        exact fun heq => hi (Option.some.inj heq)
      refine ⟨?_, fun x => ?_, ?_⟩
      · simp [h.responses, response, hanswer]
      · have hwrong : (i == q.2.correctIndex) = false := beq_eq_false_iff_ne.2 hi
        simp only [hwrong, Bool.false_eq_true, if_false]
        rw [hmem, mem_addSection]
        simp [hmissed, eq_comm]
      · simp [h.score, hi, hmissed]

theorem found_gradeAll (answers : List AttemptAnswerDto) (questions : List (QuestionId × AssessmentQuestion)) :
    Found answers questions (gradeAll answers questions) := by
  induction questions using List.reverseRecOn with
  | nil => exact ⟨rfl, fun x => by simp [gradeAll], rfl⟩
  | append_singleton questions q ih =>
    have hstep : gradeAll answers (questions ++ [q]) = gradeOne answers (gradeAll answers questions) q := by
      unfold gradeAll
      rw [List.foldl_append, List.foldl_cons, List.foldl_nil]
    rw [hstep]
    exact ih.gradeOne q

theorem response_some {answers : List AttemptAnswerDto} {q : QuestionId × AssessmentQuestion}
    {r : QuestionId × Int × Bool} : response answers q = some r ↔
      ∃ i, answerOf answers q.1 = some i ∧ r = (q.1, i, i == q.2.correctIndex) := by
  unfold response
  rw [Option.map_eq_some_iff]
  simp only [eq_comm]

theorem mem_responses {answers : List AttemptAnswerDto} {questions : List (QuestionId × AssessmentQuestion)}
    {r : QuestionId × Int × Bool} : r ∈ questions.filterMap (response answers) ↔
      ∃ q ∈ questions, ∃ i, answerOf answers q.1 = some i ∧ r = (q.1, i, i == q.2.correctIndex) := by
  simp only [List.mem_filterMap, response_some]

/-- One response for each question, where the questions are told apart by their ids. -/
theorem responses_nodup {answers : List AttemptAnswerDto} : ∀ {questions : List (QuestionId × AssessmentQuestion)},
    (questions.map (·.1)).Nodup → ((questions.filterMap (response answers)).map (·.1)).Nodup
  | [], _ => List.nodup_nil
  | q :: questions, h => by
    obtain ⟨hnot, hrest⟩ := List.nodup_cons.1 h
    have ih : ((questions.filterMap (response answers)).map (·.1)).Nodup := responses_nodup hrest
    rw [List.filterMap_cons]
    cases hr : response answers q with
    | none => exact ih
    | some r =>
      obtain ⟨i, -, rfl⟩ := response_some.1 hr
      refine List.nodup_cons.2 ⟨fun hmem => hnot ?_, ih⟩
      obtain ⟨r, hr, hrq⟩ := List.mem_map.1 hmem
      obtain ⟨p, hp, j, -, rfl⟩ := mem_responses.1 hr
      exact List.mem_map.2 ⟨p, hp, hrq⟩

/-! ## Routing -/

/-- Rows of an attempt that has none yet, of a task each, are all new. -/
theorem createMany_new (id : AttemptId) : ∀ {new rows : List AssignedRemediation},
    (∀ x ∈ new, x.attemptId = id) → (new.map (·.taskId)).Nodup →
    (∀ x ∈ rows, x.attemptId = id → x.taskId ∉ new.map (·.taskId)) → createMany rows new = rows ++ new
  | [], rows, _, _, _ => (List.append_nil rows).symm
  | row :: new, rows, hid, hnodup, hfresh => by
    obtain ⟨hrow, hnew⟩ := List.forall_mem_cons.1 hid
    obtain ⟨hnot, hnodup⟩ := List.nodup_cons.1 hnodup
    have hfree : ¬(rows.any fun x => x.attemptId == row.attemptId && x.taskId == row.taskId) = true := by
      rw [List.any_eq_true]
      rintro ⟨x, hx, hkey⟩
      rw [Bool.and_eq_true, beq_iff_eq, beq_iff_eq] at hkey
      refine hfresh x hx (hkey.1.trans hrow) ?_
      rw [hkey.2]
      exact List.mem_cons_self
    unfold createMany
    rw [if_neg hfree, createMany_new id hnew hnodup, List.append_assoc, List.singleton_append]
    intro x hx hxid hmem
    rcases List.mem_append.1 hx with hx | hx
    · exact hfresh x hx hxid (List.mem_cons_of_mem _ hmem)
    · rw [List.mem_singleton.1 hx] at hmem
      exact hnot hmem

/-- The active tasks of the course for some sections. -/
def Db.tasksFor (db : Db) (courseId : CourseId) (sectionIds : List SectionId) : List (TaskId × RemediationTask) :=
  db.tasks.entries.filter fun t => t.2.courseId == courseId && t.2.active && sectionIds.contains t.2.sectionId

theorem mem_tasksFor {db : Db} {courseId : CourseId} {sectionIds : List SectionId} {t : TaskId × RemediationTask} :
    t ∈ db.tasksFor courseId sectionIds ↔ db.tasks.get t.1 = some t.2 ∧ t.2.courseId = courseId ∧
      t.2.active = true ∧ t.2.sectionId ∈ sectionIds := by
  unfold Db.tasksFor
  rw [List.mem_filter, show t = (t.1, t.2) from rfl, Table.mem_entries]
  simp only [Bool.and_eq_true, beq_iff_eq, List.contains_iff_mem, and_assoc]

/-- The tasks of what the loop has found are those of the sections with a missed question. -/
theorem mem_tasksFor_missed {db : Db} {courseId : CourseId} {answers : List AttemptAnswerDto}
    {questions : List (QuestionId × AssessmentQuestion)} {g : Graded} (h : Found answers questions g)
    {t : TaskId × RemediationTask} :
    t ∈ db.tasksFor courseId g.wrongSections ↔ db.tasks.get t.1 = some t.2 ∧ t.2.courseId = courseId ∧
      t.2.active = true ∧ ∃ q ∈ questions, Missed answers q ∧ q.2.sectionId = t.2.sectionId := by
  rw [mem_tasksFor, h.wrongSections]

/-- Where nothing was missed, there is no section to look tasks up for. -/
theorem tasksFor_of_all {db : Db} {courseId : CourseId} {answers : List AttemptAnswerDto}
    {questions : List (QuestionId × AssessmentQuestion)} {g : Graded} (h : Found answers questions g)
    (hall : g.score = questions.length) : db.tasksFor courseId g.wrongSections = [] := by
  have hright := List.countP_eq_length.1 (h.score.symm.trans hall)
  refine List.eq_nil_iff_forall_not_mem.2 fun t ht => ?_
  obtain ⟨-, -, -, q, hq, hmissed, -⟩ := (mem_tasksFor_missed h).1 ht
  exact of_decide_eq_true (hright q hq) hmissed

/-- For an attempt that nothing is assigned for, what is assigned is each of these tasks once. -/
theorem routeRemediation_eq {db : Db} {courseId : CourseId} {studentId : UserId} {attemptId : AttemptId}
    {sectionIds : List SectionId} (hfresh : ∀ x ∈ db.assigned, x.attemptId ≠ attemptId) :
    routeRemediation db courseId studentId attemptId sectionIds =
      ({ db with assigned := db.assigned ++ (db.tasksFor courseId sectionIds).map fun t =>
          ⟨studentId, t.1, attemptId, t.2.sectionId, .pending⟩ },
        (db.tasksFor courseId sectionIds).map fun t => (t.1, t.2.title)) := by
  have hnew : createMany db.assigned ((db.tasksFor courseId sectionIds).map fun t =>
      ⟨studentId, t.1, attemptId, t.2.sectionId, .pending⟩) =
      db.assigned ++ (db.tasksFor courseId sectionIds).map fun t =>
        ⟨studentId, t.1, attemptId, t.2.sectionId, .pending⟩ := by
    refine createMany_new attemptId ?_ ?_ fun x hx hid => absurd hid (hfresh x hx)
    · intro x hx
      obtain ⟨t, -, rfl⟩ := List.mem_map.1 hx
      rfl
    · rw [List.map_map]
      exact db.tasks.nodup.sublist (List.filter_sublist.map _)
  have hnone : db.tasksFor courseId sectionIds = [] → (db, ([] : List (TaskId × String))) =
      ({ db with assigned := db.assigned ++ (db.tasksFor courseId sectionIds).map fun t =>
          ⟨studentId, t.1, attemptId, t.2.sectionId, .pending⟩ },
        (db.tasksFor courseId sectionIds).map fun t => (t.1, t.2.title)) := by
    intro h
    rw [h, List.map_nil, List.map_nil, List.append_nil]
  unfold routeRemediation
  split
  · rename_i hsections
    refine hnone (List.filter_eq_nil_iff.2 fun t _ => ?_)
    simp [hsections]
  · show (if db.tasksFor courseId sectionIds = [] then _ else _) = _
    split
    · rename_i htasks
      exact hnone htasks
    · exact Prod.ext (congrArg (fun assigned => { db with assigned }) hnew) rfl

/-! ## Runs -/

/-- Every attempt was submitted, and what is stored for attempts is stored for those there are. -/
structure Sound (db : Db) : Prop where
  issued : Issued db.toState
  submitted : ∀ id row, db.attempts.get id = some row → row.submittedAt.isSome = true
  assigned : ∀ x ∈ db.assigned, x.attemptId < db.nextId

theorem sound_start (site : Site) (tasks : Table TaskId RemediationTask) : Sound (start site tasks) :=
  ⟨issued_init 0 [] site, fun id row hrow => (by cases hrow), fun x hx => absurd hx List.not_mem_nil⟩

/-- The rows of a submission that is the student's first: an attempt under the next id. -/
def Db.attempted (db : Db) (user : UserId) (assessmentId : AssessmentId) (a : Assessment)
    (answers : List AttemptAnswerDto) (now : Nat) : Db :=
  let g := gradeAll answers (db.site.questionsOf a)
  let total := (db.site.questionsOf a).length
  { db with
    toState := { db.record user a.courseId db.nextId g with
      attempts := db.attempts.insert db.nextId ⟨assessmentId, user, some now, some g.score, some total⟩
      nextId := db.nextId + 1 } }

/-- The keys let the responses of a new attempt in. -/
theorem refuses_new {db : Db} (hs : Sound db) (a : Assessment) (answers : List AttemptAnswerDto) :
    db.refuses db.nextId (gradeAll answers (db.site.questionsOf a)) = false := by
  unfold State.refuses
  rw [List.any_eq_false]
  intro r hr
  rw [(found_gradeAll answers _).responses] at hr
  obtain ⟨q, hq, hqr⟩ := List.mem_filterMap.1 hr
  obtain ⟨i, -, rfl⟩ := response_some.1 hqr
  have hrow : db.site.bank.get q.1 = some q.2 := Table.get_of_mem (List.mem_filter.1 hq).1
  have hnone : (db.responses.any fun x => x.attemptId == db.nextId && x.questionId == q.1) = false := by
    rw [List.any_eq_false]
    intro x hx hkey
    have hlt := hs.issued.responses x hx
    rw [Bool.and_eq_true, beq_iff_eq] at hkey
    rw [hkey.1] at hlt
    exact absurd hlt (lt_irrefl _)
  dsimp only
  rw [hrow, hnone]
  simp

/-- What a submission does: it is the student's first one for an assessment that is out, and what they missed is
routed. -/
theorem submit_ok_iff {db : Db} (hs : Sound db) {user : UserId} {assessmentId : AssessmentId}
    {answers : List AttemptAnswerDto} {now : Nat} {out : Db × Submitted} :
    submit db user assessmentId answers now = .ok out ↔
      ∃ a, db.site.assessments assessmentId = some a ∧ a.released = true ∧ (a.courseId, user) ∈ db.site.enrolled ∧
        db.find assessmentId user = none ∧
        out = (let g := gradeAll answers (db.site.questionsOf a)
          let routed := routeRemediation (db.attempted user assessmentId a answers now) a.courseId user db.nextId
            g.wrongSections
          (routed.1, ⟨g.score, (db.site.questionsOf a).length, routed.2⟩)) := by
  unfold submit
  constructor
  · intro h
    obtain ⟨a, ha, h⟩ := bind_ok_iff.1 h
    obtain ⟨u₁, hreleased, h⟩ := bind_ok_iff.1 h
    obtain ⟨u₂, henrolled, h⟩ := bind_ok_iff.1 h
    obtain ⟨u₃, hopen, h⟩ := bind_ok_iff.1 h
    rw [orThrow_ok_iff] at ha
    rw [ensure_ok_iff] at hreleased henrolled hopen
    -- an attempt that is there was submitted
    have hfind : db.find assessmentId user = none := by
      cases hfind : db.find assessmentId user with
      | none => rfl
      | some id =>
        obtain ⟨row, hrow, -⟩ := Table.findKey_some hfind
        rw [hfind, Option.bind_some, hrow, Option.any_some, hs.submitted id row hrow] at hopen
        cases hopen
    obtain ⟨attempt, hattempt, h⟩ := bind_ok_iff.1 h
    rw [orThrow_ok_iff, grade_eq] at hattempt
    unfold State.submit at hattempt
    rw [hfind] at hattempt
    dsimp only at hattempt
    rw [refuses_new hs, if_neg Bool.false_ne_true] at hattempt
    cases hattempt
    cases h
    refine ⟨a, ha, hreleased, henrolled, hfind, ?_⟩
    rw [grade_eq]
    rfl
  · rintro ⟨a, ha, hreleased, henrolled, hfind, rfl⟩
    refine bind_ok_iff.2 ⟨a, orThrow_ok_iff.2 ha, bind_ok_iff.2 ⟨(), ensure_ok_iff.2 hreleased, ?_⟩⟩
    refine bind_ok_iff.2 ⟨(), ensure_ok_iff.2 henrolled, bind_ok_iff.2 ⟨(), ensure_ok_iff.2 ?_, ?_⟩⟩
    · rw [hfind]
      rfl
    · dsimp only
      rw [grade_eq]
      refine bind_ok_iff.2 ⟨((db.attempted user assessmentId a answers now).toState, db.nextId),
        orThrow_ok_iff.2 ?_, rfl⟩
      unfold State.submit
      rw [hfind]
      dsimp only
      rw [refuses_new hs, if_neg Bool.false_ne_true]
      rfl

section Submission

variable {db : Db} {user : UserId} {assessmentId : AssessmentId} {a : Assessment} {answers : List AttemptAnswerDto}
  {now : Nat}

theorem attempts_next (hs : Sound db) : db.attempts.get db.nextId = none :=
  Option.eq_none_iff_forall_ne_some.2 fun row hrow => absurd (hs.issued.attempts _ row hrow) (lt_irrefl _)

theorem assigned_next (hs : Sound db) :
    ∀ x ∈ (db.attempted user assessmentId a answers now).assigned, x.attemptId ≠ db.nextId :=
  fun x hx => Nat.ne_of_lt (hs.assigned x hx)

theorem attempted_attempts (hs : Sound db) (id : AttemptId) :
    (db.attempted user assessmentId a answers now).attempts.get id = if id = db.nextId then
      some ⟨assessmentId, user, some now, some (gradeAll answers (db.site.questionsOf a)).score,
        some (db.site.questionsOf a).length⟩
    else db.attempts.get id := Table.get_insert (attempts_next hs) _ id

theorem attempted_issued (hs : Sound db) : Issued (db.attempted user assessmentId a answers now).toState := by
  refine ⟨fun id row hrow => ?_, fun r hr => ?_, fun row hrow id hid => ?_⟩
  · rw [attempted_attempts hs] at hrow
    split at hrow
    · rename_i hid
      exact hid ▸ Nat.lt_succ_self _
    · exact Nat.lt_succ_of_lt (hs.issued.attempts id row hrow)
  · rcases List.mem_append.1 hr with hr | hr
    · exact Nat.lt_succ_of_lt (hs.issued.responses r hr)
    · obtain ⟨q, -, rfl⟩ := List.mem_map.1 hr
      exact Nat.lt_succ_self _
  · replace hrow : row ∈ (db.record user a.courseId db.nextId (gradeAll answers (db.site.questionsOf a))).ledger := hrow
    unfold State.record at hrow
    dsimp only at hrow
    split at hrow
    · rcases List.mem_append.1 hrow with hrow | hrow
      · exact Nat.lt_succ_of_lt (hs.issued.ledger row hrow id hid)
      · rw [List.mem_singleton] at hrow
        subst hrow
        cases hid
        exact Nat.lt_succ_self _
    · exact Nat.lt_succ_of_lt (hs.issued.ledger row hrow id hid)

theorem submit_sound (hs : Sound db) {out : Db × Submitted}
    (h : submit db user assessmentId answers now = .ok out) : Sound out.1 := by
  obtain ⟨a, -, -, -, -, rfl⟩ := (submit_ok_iff hs).1 h
  dsimp only
  rw [routeRemediation_eq (assigned_next hs)]
  refine ⟨attempted_issued hs, fun id row hrow => ?_, fun x hx => ?_⟩
  · replace hrow : (db.attempted user assessmentId a answers now).attempts.get id = some row := hrow
    rw [attempted_attempts hs] at hrow
    split at hrow
    · cases hrow
      rfl
    · exact hs.submitted id row hrow
  · rcases List.mem_append.1 hx with hx | hx
    · exact Nat.lt_succ_of_lt (hs.assigned x hx)
    · obtain ⟨t, -, rfl⟩ := List.mem_map.1 hx
      exact Nat.lt_succ_self _

end Submission

theorem call_sound {db db' : Db} {e : Call} (hs : Sound db) (h : call db e = some db') : Sound db' := by
  cases e with
  | submit user assessmentId answers now =>
    cases h
    cases hsubmit : submit db user assessmentId answers now with
    | error e => exact hs
    | ok out => exact submit_sound hs hsubmit
  | markRemediationDone user attemptId taskId =>
    cases h
    refine ⟨hs.issued, hs.submitted, fun x hx => ?_⟩
    obtain ⟨y, hy, rfl⟩ := List.mem_map.1 hx
    have hlt := hs.assigned y hy
    split
    · exact hlt
    · exact hlt
  | change tasks site =>
    cases h
    exact ⟨⟨hs.issued.attempts, hs.issued.responses, hs.issued.ledger⟩, hs.submitted, hs.assigned⟩

/-! ## Remediation follows the grading -/

/-- What a submission of an assessment that came to `out` has stored and assigned, under the id of its attempt. -/
structure Remediates (db : Db) (user : UserId) (a : Assessment) (answers : List AttemptAnswerDto) (id : AttemptId)
    (db' : Db) (r : Submitted) : Prop where
  score : r.score = (db.site.questionsOf a).countP fun q => answerOf answers q.1 = some q.2.correctIndex
  total : r.total = (db.site.questionsOf a).length
  /-- A response for each question that was answered, and for no other. -/
  responses : ∃ new, db'.responses = db.responses ++ new ∧ (new.map (·.questionId)).Nodup ∧
    ∀ x, x ∈ new ↔ ∃ q ∈ db.site.questionsOf a, ∃ i, answerOf answers q.1 = some i ∧
      x = ⟨id, q.1, i, i == q.2.correctIndex⟩
  /-- Each active task of the course for a section with a question that was missed, once, and no other. -/
  assigned : ∃ new, db'.assigned = db.assigned ++ new ∧ (new.map (·.taskId)).Nodup ∧
    new.map (·.taskId) = r.assignedRemediation.map (·.1) ∧
    ∀ x, x ∈ new ↔ ∃ task, db.tasks.get x.taskId = some task ∧ task.courseId = a.courseId ∧ task.active = true ∧
      (∃ q ∈ db.site.questionsOf a, Missed answers q ∧ q.2.sectionId = task.sectionId) ∧
      x = ⟨user, x.taskId, id, task.sectionId, .pending⟩
  all : r.score = r.total → db'.assigned = db.assigned
  fewer : r.score < r.total → ∃ q ∈ db.site.questionsOf a, Missed answers q

/-- In every state that calls lead to, a submission goes through just when it is the student's first one of an
assessment that is out, and then its remediation follows its grading. -/
theorem submit_remediates {site : Site} {tasks : Table TaskId RemediationTask} {es : List Call} {db : Db}
    (hrun : run call (start site tasks) es = some db) (user : UserId) (assessmentId : AssessmentId)
    (answers : List AttemptAnswerDto) (now : Nat) :
    ((∃ out, submit db user assessmentId answers now = .ok out) ↔
      ∃ a, db.site.assessments assessmentId = some a ∧ a.released = true ∧ (a.courseId, user) ∈ db.site.enrolled ∧
        db.find assessmentId user = none) ∧
    ∀ db' r, submit db user assessmentId answers now = .ok (db', r) →
      ∃ a id, db.site.assessments assessmentId = some a ∧ db.attempts.get id = none ∧
        db'.attempts.get id = some ⟨assessmentId, user, some now, some r.score, some r.total⟩ ∧
        Remediates db user a answers id db' r := by
  have hs : Sound db := run_keeps (fun _ _ _ => call_sound) (sound_start site tasks) hrun
  constructor
  · constructor
    · rintro ⟨out, h⟩
      obtain ⟨a, ha, hreleased, henrolled, hfind, -⟩ := (submit_ok_iff hs).1 h
      exact ⟨a, ha, hreleased, henrolled, hfind⟩
    · rintro ⟨a, ha, hreleased, henrolled, hfind⟩
      exact ⟨_, (submit_ok_iff hs).2 ⟨a, ha, hreleased, henrolled, hfind, rfl⟩⟩
  · intro db' r h
    obtain ⟨a, ha, -, -, -, hout⟩ := (submit_ok_iff hs).1 h
    dsimp only at hout
    rw [routeRemediation_eq (assigned_next hs)] at hout
    cases hout
    have hfound := found_gradeAll answers (db.site.questionsOf a)
    refine ⟨a, db.nextId, ha, attempts_next hs, (attempted_attempts hs _).trans (if_pos rfl), ?_⟩
    refine ⟨?_, rfl, ⟨_, rfl, ?_, fun x => ?_⟩, ⟨_, rfl, ?_, ?_, fun x => ?_⟩, fun hall => ?_, fun hfewer => ?_⟩
    · rw [hfound.score]
      refine List.countP_congr fun q _ => ?_
      simp [Missed]
    · rw [List.map_map]
      show ((gradeAll answers (db.site.questionsOf a)).responses.map (·.1)).Nodup
      rw [hfound.responses]
      exact responses_nodup (db.site.bank.nodup.sublist (List.filter_sublist.map _))
    · rw [List.mem_map, hfound.responses]
      constructor
      · rintro ⟨r, hr, rfl⟩
        obtain ⟨q, hq, i, hi, rfl⟩ := mem_responses.1 hr
        exact ⟨q, hq, i, hi, rfl⟩
      · rintro ⟨q, hq, i, hi, rfl⟩
        exact ⟨_, mem_responses.2 ⟨q, hq, i, hi, rfl⟩, rfl⟩
    · rw [List.map_map]
      exact db.tasks.nodup.sublist (List.filter_sublist.map _)
    · rw [List.map_map, List.map_map]
      rfl
    · rw [List.mem_map]
      constructor
      · rintro ⟨t, ht, rfl⟩
        obtain ⟨htask, hcourse, hactive, hmissed⟩ := (mem_tasksFor_missed hfound).1 ht
        exact ⟨t.2, htask, hcourse, hactive, hmissed, rfl⟩
      · rintro ⟨task, htask, hcourse, hactive, hmissed, hx⟩
        exact ⟨(x.taskId, task), (mem_tasksFor_missed hfound).2 ⟨htask, hcourse, hactive, hmissed⟩, hx.symm⟩
    · show db.assigned ++ (db.tasksFor a.courseId _).map _ = db.assigned
      rw [tasksFor_of_all hfound hall, List.map_nil, List.append_nil]
    · by_contra hnone
      refine Nat.ne_of_lt hfewer (hfound.score.trans (List.countP_eq_length.2 fun q hq => ?_))
      exact decide_eq_true fun hmissed => hnone ⟨q, hq, hmissed⟩

namespace Example

def tasks : Table TaskId RemediationTask :=
  ((Table.empty.insert "t1" ⟨"c", "sec", "Read again", true⟩).insert "t2" ⟨"c", "sec", "Old", false⟩).insert "t3"
    ⟨"c", "other", "Not missed", true⟩

end Example

open Example in
/-- Amina answers one of two questions, twice, and is given the one active task of their section. -/
theorem one_missed : ∃ db' r, submit (start Example.site tasks) "amina" "quiz" [⟨"q1", 1⟩, ⟨"q9", 0⟩, ⟨"q1", 0⟩] 5 =
      .ok (db', r) ∧ r = ⟨1, 2, [("t1", "Read again")]⟩ ∧
    ∃ a id, Example.site.assessments "quiz" = some a ∧
      Remediates (start Example.site tasks) "amina" a [⟨"q1", 1⟩, ⟨"q9", 0⟩, ⟨"q1", 0⟩] id db' r := by
  have hseen : (submit (start Example.site tasks) "amina" "quiz" [⟨"q1", 1⟩, ⟨"q9", 0⟩, ⟨"q1", 0⟩] 5).toOption.map
      (·.2) = some ⟨1, 2, [("t1", "Read again")]⟩ := by decide
  obtain ⟨⟨db', r⟩, hsubmit, hr⟩ := Option.map_eq_some_iff.1 hseen
  rw [toOption_eq_some] at hsubmit
  obtain ⟨a, id, ha, -, -, hremediates⟩ :=
    (submit_remediates (run_nil call (start Example.site tasks)) "amina" "quiz" _ 5).2 db' r hsubmit
  exact ⟨db', r, hsubmit, hr, a, id, ha, hremediates⟩

end Livetich.Assessment
