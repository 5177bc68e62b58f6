/-
Post-class assessments: `AssessmentService.submit` as steps between database calls, over the attempts, their responses
and the points ledger. The submit transaction is one step; a unique or foreign key that it breaks rolls it back. The
assessments, the question bank and the enrolments may change at any time.
-/
import Livetich.Lib.Table
import Livetich.Lib.TransSys
import Livetich.Points.Ledger

namespace Livetich.Assessment

open TransSys Livetich.Lib Livetich.Lib.Ledger Livetich.Points

abbrev AssessmentId := String
abbrev QuestionId := String
abbrev SectionId := String
abbrev AttemptId := Nat

/-! ## Rows and requests -/

structure Assessment where
  courseId : CourseId
  /-- `none` when the column holds no array. -/
  questionIds : Option (List QuestionId)
  released : Bool
  deriving DecidableEq

structure AssessmentQuestion where
  sectionId : SectionId
  correctIndex : Int
  deriving DecidableEq

structure AssessmentAttempt where
  assessmentId : AssessmentId
  studentId : UserId
  submittedAt : Option Nat
  score : Option Nat
  total : Option Nat
  deriving DecidableEq

structure AssessmentResponse where
  attemptId : AttemptId
  questionId : QuestionId
  answerIndex : Int
  isCorrect : Bool
  deriving DecidableEq

structure AttemptAnswerDto where
  questionId : QuestionId
  answerIndex : Int
  deriving DecidableEq

/-- What other calls write and `submit` reads. -/
structure Site where
  assessments : AssessmentId → Option Assessment
  enrolled : List (CourseId × UserId)
  bank : Table QuestionId AssessmentQuestion

/-! ## Grading -/

/-- What the loop over the questions builds. -/
structure Graded where
  responses : List (QuestionId × Int × Bool)
  wrongSections : List SectionId
  score : Nat
  deriving DecidableEq

/-- `answerByQuestion.get`: the last answer to the question wins. -/
def answerOf (answers : List AttemptAnswerDto) (id : QuestionId) : Option Int :=
  ((answers.filter (·.questionId == id)).getLast?).map (·.answerIndex)

def addSection (sections : List SectionId) (id : SectionId) : List SectionId :=
  if sections.contains id then sections else sections ++ [id]

def gradeOne (answers : List AttemptAnswerDto) (g : Graded) (q : QuestionId × AssessmentQuestion) : Graded :=
  match answerOf answers q.1 with
  -- unanswered: the topic is not mastered
  | none => { g with wrongSections := addSection g.wrongSections q.2.sectionId }
  | some answerIndex =>
    let isCorrect := answerIndex == q.2.correctIndex
    { responses := g.responses ++ [(q.1, answerIndex, isCorrect)]
      wrongSections := if isCorrect then g.wrongSections else addSection g.wrongSections q.2.sectionId
      score := if isCorrect then g.score + 1 else g.score }

def gradeAll (answers : List AttemptAnswerDto) (questions : List (QuestionId × AssessmentQuestion)) : Graded :=
  questions.foldl (gradeOne answers) ⟨[], [], 0⟩

theorem gradeOne_score {answers : List AttemptAnswerDto} {g : Graded} (q : QuestionId × AssessmentQuestion)
    (h : g.score = g.responses.countP (·.2.2)) :
    (gradeOne answers g q).score = (gradeOne answers g q).responses.countP (·.2.2) := by
  unfold gradeOne
  split
  · exact h
  · rename_i answerIndex _
    simp only [List.countP_append, List.countP_singleton, h]
    split <;> rfl

/-- The score counts the responses that are correct. -/
theorem gradeAll_score (answers : List AttemptAnswerDto) (questions : List (QuestionId × AssessmentQuestion)) :
    (gradeAll answers questions).score = (gradeAll answers questions).responses.countP (·.2.2) := by
  unfold gradeAll
  exact List.foldlRecOn questions (gradeOne answers)
    (motive := fun g : Graded => g.score = g.responses.countP (·.2.2)) rfl fun g hg q _ => gradeOne_score q hg

/-! ## Calls between their awaits -/

inductive Task
  | assessment (user : UserId) (assessmentId : AssessmentId) (answers : List AttemptAnswerDto)
  | enrolment (user : UserId) (assessmentId : AssessmentId) (a : Assessment) (answers : List AttemptAnswerDto)
  | existing (user : UserId) (assessmentId : AssessmentId) (a : Assessment) (answers : List AttemptAnswerDto)
  | questions (user : UserId) (assessmentId : AssessmentId) (a : Assessment) (answers : List AttemptAnswerDto)
  | transaction (user : UserId) (assessmentId : AssessmentId) (courseId : CourseId) (answers : List AttemptAnswerDto)
    (questions : List (QuestionId × AssessmentQuestion)) (now : Nat)
  /-- `routeRemediation`, which writes to tables of its own. -/
  | routeRemediation (courseId : CourseId) (studentId : UserId) (attemptId : AttemptId) (sections : List SectionId)
  deriving DecidableEq

structure State where
  attempts : Table AttemptId AssessmentAttempt
  responses : List AssessmentResponse
  ledger : List Award
  /-- The id of the next record; ids are never handed out twice. -/
  nextId : Nat
  site : Site
  calls : Pool Task

/-- No attempt yet; the ledger holds what was awarded for the records there are. -/
def init (nextId : Nat) (ledger : List Award) (site : Site) : State where
  attempts := Table.empty
  responses := []
  ledger := ledger.filter fun row => row.refId.all (· < nextId)
  nextId := nextId
  site := site
  calls := Pool.empty

def State.goto (s : State) (i : Nat) (t : Option Task) : State := { s with calls := s.calls.put i t }

/-- The attempt under the unique key on assessment and student. -/
def State.find (s : State) (assessmentId : AssessmentId) (studentId : UserId) : Option AttemptId :=
  s.attempts.findKey fun row => row.assessmentId == assessmentId && row.studentId == studentId

/-- The keys do not let the responses of an attempt in: one question is answered in it already, or is gone. -/
def State.refuses (s : State) (id : AttemptId) (g : Graded) : Bool :=
  g.responses.any fun r =>
    (s.responses.any fun x => x.attemptId == id && x.questionId == r.1) || (s.site.bank.get r.1).isNone

/-- What the transaction writes for an attempt, be it there or new. -/
def State.record (s : State) (user : UserId) (courseId : CourseId) (id : AttemptId) (g : Graded) : State :=
  { s with
    responses := s.responses ++ g.responses.map fun r => ⟨id, r.1, r.2.1, r.2.2⟩
    ledger := if 0 < g.score then s.ledger ++ [⟨user, courseId, g.score * pointsQuizCorrect, .quizCorrect, some id⟩]
      else s.ledger }

/-- The submit transaction, with the id of the attempt; `none` when it is rolled back. -/
def State.submit (s : State) (user : UserId) (assessmentId : AssessmentId) (courseId : CourseId) (g : Graded)
    (total now : Nat) : Option (State × AttemptId) :=
  match s.find assessmentId user with
  | some id =>
    if s.refuses id g then none
    else some ({ s.record user courseId id g with attempts := s.attempts.modify id fun row =>
      { row with submittedAt := some now, score := some g.score, total := some total } }, id)
  | none =>
    if s.refuses s.nextId g then none
    else some ({ s.record user courseId s.nextId g with
      attempts := s.attempts.insert s.nextId ⟨assessmentId, user, some now, some g.score, some total⟩
      nextId := s.nextId + 1 }, s.nextId)

def resume (s : State) (i now : Nat) : Task → State
  | .assessment user assessmentId answers =>
    s.goto i (((s.site.assessments assessmentId).filter (·.released)).map fun a =>
      .enrolment user assessmentId a answers)
  | .enrolment user assessmentId a answers =>
    if s.site.enrolled.contains (a.courseId, user) then s.goto i (some (.existing user assessmentId a answers))
    else s.goto i none
  | .existing user assessmentId a answers =>
    if ((s.find assessmentId user).bind s.attempts.get).any (·.submittedAt.isSome) then s.goto i none
    else s.goto i (some (.questions user assessmentId a answers))
  | .questions user assessmentId a answers =>
    s.goto i (some (.transaction user assessmentId a.courseId answers
      (s.site.bank.entries.filter fun q => (a.questionIds.getD []).contains q.1) now))
  | .transaction user assessmentId courseId answers questions submittedAt =>
    let g := gradeAll answers questions
    match s.submit user assessmentId courseId g questions.length submittedAt with
    | none => s.goto i none
    | some (s', id) => s'.goto i (some (.routeRemediation courseId user id g.wrongSections))
  | .routeRemediation _ _ _ _ => s.goto i none

inductive Event
  | submit (i : Nat) (user : UserId) (assessmentId : AssessmentId) (answers : List AttemptAnswerDto)
  /-- The pending database call of task `i` is answered, at time `now`. -/
  | resume (i now : Nat)
  /-- The pending database call of task `i` fails: nothing is written and the call ends. -/
  | fail (i : Nat)
  /-- Another record is created. -/
  | create
  /-- Points for a record that is no attempt. -/
  | award (row : Award)
  | change (site : Site)

def step (s : State) : Event → Option State
  | .submit i user assessmentId answers =>
    if (s.calls.get i).isSome then none else some (s.goto i (some (.assessment user assessmentId answers)))
  | .resume i now => (s.calls.get i).map (resume s i now)
  | .fail i => (s.calls.get i).map fun _ => s.goto i none
  | .create => some { s with nextId := s.nextId + 1 }
  | .award row =>
    if row.refId.all fun id => id < s.nextId && (s.attempts.get id).isNone then
      some { s with ledger := s.ledger ++ [row] }
    else none
  | .change site => some { s with site }

/-! ## What a step does to the rows -/

/-- When a submit transaction begins, no attempt is stored yet for the student and the assessment; or its keys refuse
the responses; or the stored attempt has no correct answer. -/
def firstTime (s : State) : Event → Bool
  | .resume i _ => match s.calls.get i with
    | some (.transaction user assessmentId _ answers questions _) =>
      (s.find assessmentId user).all fun id =>
        s.refuses id (gradeAll answers questions) || (s.attempts.get id).any (·.score == some 0)
    | _ => true
  | _ => true

inductive Effect (s : State) : Event → State → Prop
  | quiet {e : Event} (calls : Pool Task) (site : Site) (hfirst : firstTime s e = true) :
    Effect s e { s with calls, site }
  | create : Effect s .create { s with nextId := s.nextId + 1 }
  | award (row : Award) (hrow : ∀ id, row.refId = some id → id < s.nextId ∧ s.attempts.get id = none) :
    Effect s (.award row) { s with ledger := s.ledger ++ [row] }
  | submitted {i now : Nat} {user : UserId} {assessmentId : AssessmentId} {courseId : CourseId}
    {answers : List AttemptAnswerDto} {questions : List (QuestionId × AssessmentQuestion)} {submittedAt : Nat}
    {s₁ : State} {id : AttemptId} (calls : Pool Task)
    (htask : s.calls.get i = some (.transaction user assessmentId courseId answers questions submittedAt))
    (hsubmit : s.submit user assessmentId courseId (gradeAll answers questions) questions.length submittedAt =
      some (s₁, id)) : Effect s (.resume i now) { s₁ with calls }

theorem submit_none {s : State} {user : UserId} {assessmentId : AssessmentId} {courseId : CourseId} {g : Graded}
    {total now : Nat} (h : s.submit user assessmentId courseId g total now = none) {id : AttemptId}
    (hfind : s.find assessmentId user = some id) : s.refuses id g = true := by
  unfold State.submit at h
  rw [hfind] at h
  by_contra hrefuses
  simp only [hrefuses] at h
  cases h

theorem step_effect {s s' : State} {e : Event} (h : step s e = some s') : Effect s e s' := by
  cases e with
  | submit i user assessmentId answers =>
    rw [step] at h
    split at h
    · cases h
    · cases h
      exact .quiet _ s.site rfl
  | fail i =>
    obtain ⟨t, -, rfl⟩ := Option.map_eq_some_iff.1 h
    exact .quiet _ s.site rfl
  | create =>
    cases h
    exact .create
  | award row =>
    rw [step] at h
    split at h
    · rename_i hfree
      cases h
      refine .award row fun id hid => ?_
      rw [hid] at hfree
      simp only [Option.all_some, Bool.and_eq_true, decide_eq_true_eq, Option.isNone_iff_eq_none] at hfree
      exact hfree
    · cases h
  | change site =>
    cases h
    exact .quiet s.calls site rfl
  | resume i now =>
    obtain ⟨t, ht, rfl⟩ := Option.map_eq_some_iff.1 h
    -- only a transaction writes a score
    have hfirst : (∀ user assessmentId courseId answers questions now',
        t ≠ .transaction user assessmentId courseId answers questions now') →
        firstTime s (.resume i now) = true := by
      intro hne
      cases t with
      | transaction user assessmentId courseId answers questions now' =>
        exact absurd rfl (hne user assessmentId courseId answers questions now')
      | _ => simp only [firstTime, ht]
    cases t with
    | assessment user assessmentId answers => exact .quiet _ s.site (hfirst (by intros; simp))
    | enrolment user assessmentId a answers =>
      rw [resume]
      split
      · exact .quiet _ s.site (hfirst (by intros; simp))
      · exact .quiet _ s.site (hfirst (by intros; simp))
    | existing user assessmentId a answers =>
      rw [resume]
      split
      · exact .quiet _ s.site (hfirst (by intros; simp))
      · exact .quiet _ s.site (hfirst (by intros; simp))
    | questions user assessmentId a answers => exact .quiet _ s.site (hfirst (by intros; simp))
    | routeRemediation courseId studentId attemptId sections => exact .quiet _ s.site (hfirst (by intros; simp))
    | transaction user assessmentId courseId answers questions submittedAt =>
      rw [resume]
      split
      · rename_i hnone
        -- the transaction was rolled back
        refine .quiet _ s.site ?_
        simp only [firstTime, ht]
        cases hfind : s.find assessmentId user with
        | none => rfl
        | some id => rw [Option.all_some, submit_none hnone hfind, Bool.true_or]
      · rename_i s₁ id hsubmit
        exact .submitted _ ht hsubmit

/-! ## Ids are handed out once -/

structure Issued (s : State) : Prop where
  attempts : ∀ id row, s.attempts.get id = some row → id < s.nextId
  responses : ∀ r ∈ s.responses, r.attemptId < s.nextId
  ledger : ∀ row ∈ s.ledger, ∀ id, row.refId = some id → id < s.nextId

theorem issued_init (nextId : Nat) (ledger : List Award) (site : Site) : Issued (init nextId ledger site) := by
  refine ⟨?_, ?_, fun row hrow id hid => ?_⟩
  · intro id row hrow
    cases hrow
  · intro r hr
    cases hr
  · have hall := (List.mem_filter.1 hrow).2
    rw [hid] at hall
    exact of_decide_eq_true hall

/-- How the transaction goes: the attempt it writes was there, or has the next id. -/
theorem submit_some {s s₁ : State} {user : UserId} {assessmentId : AssessmentId} {courseId : CourseId} {g : Graded}
    {total now : Nat} {id : AttemptId} (h : s.submit user assessmentId courseId g total now = some (s₁, id)) :
    s₁.responses = (s.record user courseId id g).responses ∧ s₁.ledger = (s.record user courseId id g).ledger ∧
      s.nextId ≤ s₁.nextId ∧
      ((s.find assessmentId user = some id ∧ s.refuses id g = false ∧
          s₁.attempts = s.attempts.modify id fun row =>
            { row with submittedAt := some now, score := some g.score, total := some total }) ∨
        (s.find assessmentId user = none ∧ id = s.nextId ∧ s₁.nextId = s.nextId + 1 ∧
          s₁.attempts = s.attempts.insert id ⟨assessmentId, user, some now, some g.score, some total⟩)) := by
  unfold State.submit at h
  split at h
  · rename_i id' hfind
    split at h
    · cases h
    · rename_i hrefuses
      cases h
      exact ⟨rfl, rfl, le_rfl, .inl ⟨hfind, Bool.eq_false_iff.2 hrefuses, rfl⟩⟩
  · rename_i hfind
    split at h
    · cases h
    · cases h
      exact ⟨rfl, rfl, Nat.le_succ _, .inr ⟨hfind, rfl, rfl, rfl⟩⟩

theorem Issued.grow {s : State} (h : Issued s) {n : Nat} (hn : s.nextId ≤ n) : Issued { s with nextId := n } :=
  ⟨fun id row hrow => (h.attempts id row hrow).trans_le hn, fun r hr => (h.responses r hr).trans_le hn,
    fun row hrow id hid => (h.ledger row hrow id hid).trans_le hn⟩

theorem issued_step {s s' : State} {e : Event} (hs : Issued s) (h : step s e = some s') : Issued s' := by
  cases step_effect h with
  | quiet calls site hfirst => exact ⟨hs.attempts, hs.responses, hs.ledger⟩
  | create => exact hs.grow (Nat.le_succ _)
  | award row hrow =>
    refine ⟨hs.attempts, hs.responses, fun r hr id hid => ?_⟩
    rcases List.mem_append.1 hr with hr | hr
    · exact hs.ledger r hr id hid
    · rw [List.mem_singleton] at hr
      subst hr
      exact (hrow id hid).1
  | @submitted i now user assessmentId courseId answers questions submittedAt s₁ id calls htask hsubmit =>
    obtain ⟨hresponses, hledger, hnext, hattempt⟩ := submit_some hsubmit
    have hid : id < s₁.nextId := by
      rcases hattempt with ⟨hfind, -, -⟩ | ⟨-, hid, hnext', -⟩
      · obtain ⟨row, hrow, -⟩ := Table.findKey_some hfind
        exact (hs.attempts id row hrow).trans_le hnext
      · rw [hid, hnext']
        exact Nat.lt_succ_self _
    refine ⟨fun j row hrow => ?_, fun r hr => ?_, fun row hrow j hj => ?_⟩
    · replace hrow : s₁.attempts.get j = some row := hrow
      by_cases hj : j = id
      · exact hj ▸ hid
      · refine (hs.attempts j row ?_).trans_le hnext
        rcases hattempt with ⟨-, -, hattempts⟩ | ⟨-, hnew, -, hattempts⟩
        · rw [hattempts, Table.get_modify_of_ne _ _ hj] at hrow
          exact hrow
        · have hfree : s.attempts.get id = none := by
            refine Option.eq_none_iff_forall_ne_some.2 fun r hr => ?_
            rw [hnew] at hr
            exact absurd (hs.attempts _ r hr) (lt_irrefl _)
          rw [hattempts, Table.get_insert hfree, if_neg hj] at hrow
          exact hrow
    · replace hr : r ∈ s₁.responses := hr
      rw [hresponses] at hr
      rcases List.mem_append.1 hr with hr | hr
      · exact (hs.responses r hr).trans_le hnext
      · obtain ⟨q, -, rfl⟩ := List.mem_map.1 hr
        exact hid
    · replace hrow : row ∈ s₁.ledger := hrow
      rw [hledger] at hrow
      unfold State.record at hrow
      simp only at hrow
      split at hrow
      · rcases List.mem_append.1 hrow with hrow | hrow
        · exact (hs.ledger row hrow j hj).trans_le hnext
        · rw [List.mem_singleton] at hrow
          subst hrow
          cases hj
          exact hid
      · exact (hs.ledger row hrow j hj).trans_le hnext

/-! ## Paid once -/

/-- The stored responses of an attempt that are correct. -/
def State.correct (s : State) (id : AttemptId) : Nat := s.responses.countP fun r => r.attemptId == id && r.isCorrect

/-- Each attempt is scored by its correct responses, and its points are those of its score. -/
def PaidOnce (s : State) : Prop :=
  ∀ id row, s.attempts.get id = some row →
    row.score = some (s.correct id) ∧ paidFor id s.ledger = s.correct id * pointsQuizCorrect

theorem paidOnce_init (nextId : Nat) (ledger : List Award) (site : Site) : PaidOnce (init nextId ledger site) := by
  intro id row hrow
  cases hrow

theorem correct_record (s : State) (user : UserId) (courseId : CourseId) (id : AttemptId) {g : Graded}
    (hg : g.score = g.responses.countP (·.2.2)) (j : AttemptId) :
    (s.record user courseId id g).correct j = s.correct j + if j = id then g.score else 0 := by
  unfold State.correct State.record
  simp only
  rw [List.countP_append, List.countP_map]
  by_cases hj : j = id
  · subst hj
    rw [if_pos rfl, hg]
    congr 1
    refine List.countP_congr fun r _ => ?_
    simp
  · rw [if_neg hj]
    congr 1
    rw [List.countP_eq_zero]
    intro r _
    simp [Ne.symm hj]

theorem paidFor_record (s : State) (user : UserId) (courseId : CourseId) (id : AttemptId) (g : Graded) (j : AttemptId) :
    paidFor j (s.record user courseId id g).ledger =
      paidFor j s.ledger + if j = id then g.score * pointsQuizCorrect else 0 := by
  unfold State.record
  simp only
  by_cases hscore : 0 < g.score
  · rw [if_pos hscore]
    by_cases hj : j = id
    · subst hj
      rw [if_pos rfl]
      exact balance_post (p := fun row : Award => row.refId == some j) (beq_self_eq_true (some j)) s.ledger
    · rw [if_neg hj, add_zero]
      refine balance_skip ?_ s.ledger
      rw [beq_eq_false_iff_ne]
      exact fun h => hj (Option.some.inj h).symm
  · rw [if_neg hscore]
    obtain hzero : g.score = 0 := by omega
    rw [hzero]
    split <;> simp

/-- A submission that is stored leaves its attempt paid once just when the attempt had no correct response. -/
theorem paidOnce_record {s s₁ : State} (hpaid : PaidOnce s) {user : UserId} {courseId : CourseId} {id : AttemptId}
    {g : Graded} (hg : g.score = g.responses.countP (·.2.2)) {row : AssessmentAttempt}
    (hrow : s₁.attempts.get id = some row) (hscore : row.score = some g.score)
    (hothers : ∀ j, j ≠ id → s₁.attempts.get j = s.attempts.get j)
    (hresponses : s₁.responses = (s.record user courseId id g).responses)
    (hledger : s₁.ledger = (s.record user courseId id g).ledger)
    (hbefore : paidFor id s.ledger = s.correct id * pointsQuizCorrect) : PaidOnce s₁ ↔ s.correct id = 0 := by
  have hcorrect : ∀ j, s₁.correct j = s.correct j + if j = id then g.score else 0 := by
    intro j
    rw [← correct_record s user courseId id hg j]
    unfold State.correct
    rw [hresponses]
  have hpoints : ∀ j, paidFor j s₁.ledger =
      paidFor j s.ledger + if j = id then g.score * pointsQuizCorrect else 0 := by
    intro j
    rw [hledger, paidFor_record]
  constructor
  · intro hpaid₁
    have hthis := (hpaid₁ id row hrow).1
    rw [hscore, Option.some.injEq, hcorrect id, if_pos rfl] at hthis
    omega
  · intro hnone j rowj hrowj
    rw [hcorrect j, hpoints j]
    by_cases hj : j = id
    · subst hj
      rw [hrow, Option.some.injEq] at hrowj
      subst hrowj
      rw [if_pos rfl, if_pos rfl, hbefore, hnone, zero_add, hscore]
      exact ⟨rfl, by simp⟩
    · rw [hothers j hj] at hrowj
      rw [if_neg hj, if_neg hj, add_zero, add_zero]
      exact hpaid j rowj hrowj

theorem step_paidOnce {s s' : State} {e : Event} (hs : Issued s) (hpaid : PaidOnce s) (h : step s e = some s') :
    PaidOnce s' ↔ firstTime s e = true := by
  cases step_effect h with
  | quiet calls site hfirst => exact ⟨fun _ => hfirst, fun _ => hpaid⟩
  | create => exact ⟨fun _ => rfl, fun _ => hpaid⟩
  | award row hrow =>
    refine ⟨fun _ => rfl, fun _ id r hr => ?_⟩
    obtain ⟨hscore, hpoints⟩ := hpaid id r hr
    refine ⟨hscore, Eq.trans (balance_skip ?_ s.ledger) hpoints⟩
    rw [beq_eq_false_iff_ne]
    intro hid
    have hnone := (hrow id hid).2
    replace hr : s.attempts.get id = some r := hr
    rw [hnone] at hr
    cases hr
  | @submitted i now user assessmentId courseId answers questions submittedAt s₁ id calls htask hsubmit =>
    obtain ⟨hresponses, hledger, -, hattempt⟩ := submit_some hsubmit
    show PaidOnce s₁ ↔ _
    rcases hattempt with ⟨hfind, hrefuses, hattempts⟩ | ⟨hfind, rfl, -, hattempts⟩
    · obtain ⟨row, hrow, -⟩ := Table.findKey_some hfind
      obtain ⟨hscore, hpoints⟩ := hpaid id row hrow
      have hfirst : firstTime s (.resume i now) = true ↔ s.correct id = 0 := by
        simp only [firstTime, htask, hfind, Option.all_some, hrefuses, Bool.false_or, hrow, Option.any_some, hscore,
          beq_iff_eq, Option.some.injEq]
      rw [hfirst]
      have hrow' : s₁.attempts.get id = some
          { row with
            submittedAt := some submittedAt, score := some (gradeAll answers questions).score
            total := some questions.length } := by
        rw [hattempts, Table.get_modify_self, hrow]
        rfl
      refine paidOnce_record hpaid (gradeAll_score answers questions) hrow' rfl (fun j hj => ?_) hresponses hledger
        hpoints
      rw [hattempts, Table.get_modify_of_ne _ _ hj]
    · -- a new attempt: nothing is stored or paid for it yet
      have hfree : s.attempts.get s.nextId = none := by
        refine Option.eq_none_iff_forall_ne_some.2 fun r hr => ?_
        exact absurd (hs.attempts _ r hr) (lt_irrefl _)
      have hcorrect : s.correct s.nextId = 0 := by
        unfold State.correct
        rw [List.countP_eq_zero]
        intro r hr hid
        have hlt := hs.responses r hr
        rw [Bool.and_eq_true, beq_iff_eq] at hid
        rw [hid.1] at hlt
        exact absurd hlt (lt_irrefl _)
      have hpoints : paidFor s.nextId s.ledger = s.correct s.nextId * pointsQuizCorrect := by
        rw [hcorrect]
        refine Eq.trans (balance_of_none fun row hrow => ?_) (by simp)
        rw [beq_eq_false_iff_ne]
        intro hid
        exact absurd (hs.ledger row hrow _ hid) (lt_irrefl _)
      have hfirst : firstTime s (.resume i now) = true := by
        simp only [firstTime, htask, hfind, Option.all_none]
      refine ⟨fun _ => hfirst, fun _ => ?_⟩
      have hrow := Table.get_insert hfree
        ⟨assessmentId, user, some submittedAt, some (gradeAll answers questions).score, some questions.length⟩
        s.nextId
      rw [if_pos rfl, ← hattempts] at hrow
      refine (paidOnce_record hpaid (gradeAll_score answers questions) hrow rfl (fun j hj => ?_) hresponses hledger
        hpoints).2 hcorrect
      rw [hattempts, Table.get_insert hfree, if_neg hj]

/-- In every run, each attempt is scored by its correct responses and paid by its score in every state if and only if
every submit transaction finds no attempt stored yet, or one whose keys refuse it, or one without a correct answer. -/
theorem paid_once {nextId : Nat} {ledger : List Award} {site : Site} {es : List Event} {s : State}
    (h : run step (init nextId ledger site) es = some s) :
    Meets step (fun t e => firstTime t e = true) (init nextId ledger site) es ↔
      ∀ es₁ es₂ t, es = es₁ ++ es₂ → run step (init nextId ledger site) es₁ = some t → PaidOnce t := by
  refine meets_iff (fun _ _ _ => issued_step) (fun t e t' hissued hpaid hstep => ?_) (issued_init nextId ledger site)
    (paidOnce_init nextId ledger site) h
  exact step_paidOnce hissued hpaid hstep

/-! ### Two submissions that answer different questions -/

namespace Example

def site : Site where
  assessments := fun id => if id = "quiz" then some ⟨"c", some ["q1", "q2"], true⟩ else none
  enrolled := [("c", "amina")]
  bank := (Table.empty.insert "q1" ⟨"sec", 0⟩).insert "q2" ⟨"sec", 1⟩

/-- Amina answers both questions, and submits again: the second time she is turned away. -/
def again : List Event :=
  [.submit 0 "amina" "quiz" [⟨"q1", 0⟩, ⟨"q2", 1⟩]] ++ List.replicate 6 (.resume 0 1) ++
    [.submit 1 "amina" "quiz" [⟨"q2", 1⟩]] ++ List.replicate 3 (.resume 1 2)

/-- She submits an answer to one question and, from another tab, to the other; both are let in. -/
def twoTabs : List Event :=
  [.submit 0 "amina" "quiz" [⟨"q1", 0⟩], .submit 1 "amina" "quiz" [⟨"q2", 1⟩]] ++
    List.replicate 4 (.resume 0 1) ++ List.replicate 4 (.resume 1 1) ++
    [.resume 0 2, .resume 1 3, .resume 0 4, .resume 1 4]

/-- The score of her attempt, its correct responses and its points. -/
def outcome (s : State) : Option (Option Nat) × Nat × Int :=
  ((s.attempts.get 7).map (·.score), s.correct 7, paidFor 7 s.ledger)

end Example

open Example in
theorem submitted_again : ∃ s, run step (init 7 [] Example.site) again = some s ∧ PaidOnce s ∧
    outcome s = (some (some 2), 2, 20) := by
  have hrun : (run step (init 7 [] Example.site) again).map outcome = some (some (some 2), 2, 20) := by
    decide
  obtain ⟨s, hs, hout⟩ := Option.map_eq_some_iff.1 hrun
  exact ⟨s, hs, (paid_once hs).1 (by decide) again [] s (by rw [List.append_nil]) hs, hout⟩

open Example in
theorem two_tabs : (run step (init 7 [] Example.site) twoTabs).map outcome = some (some (some 1), 2, 20) := by
  decide

end Livetich.Assessment
