/-
Withheld AI output, run against run: with `showAiToStudents` off, two runs that differ in what the
AI model answers look the same to every student, at every moment, as long as an answer is stored
with low confidence in both or in neither.

The scores, the notes and the marks are withheld on every path. The status is not, and `persist`
writes the model's confidence into it; the two runs after the theorem tell a student apart what the
model thought of the submission.
-/
import Livetich.Coding.Ruling
import Livetich.Coding.Visibility

namespace Livetich.Coding

open TransSys Lib
open Livetich.Courses (Result found)

/-! ## Two runs side by side -/

/-- The same events, but for the answers of the AI model. -/
def differsOnly : Event × Event → Bool
  | (.answered i _, .answered j _) => i == j
  | (e₁, e₂) => decide (e₁ = e₂)

/-- Both runs take a step. -/
def pairStep (p : State × State) (e : Event × Event) : Option (State × State) :=
  (step p.1 e.1).bind fun s₁ => (step p.2 e.2).map fun s₂ => (s₁, s₂)

/-- An answer on a submission of the assignment is stored with low confidence in both runs or in
neither. -/
def agrees (a : AssignmentId) (p : State × State) (e : Event × Event) : Bool :=
  match e.1 with
  | .resume i => match p.1.tasks.get i, p.2.tasks.get i with
    | some (.persist x _ _ out₁), some (.persist _ _ _ out₂) =>
      (p.1.db.submissions.get x).all fun row =>
        row.assignmentId != a || (out₁.confidence == .low) == (out₂.confidence == .low)
    | _, _ => true
  | _ => true

/-- What students read of an assignment, and of their submissions to it, is the same. -/
structure SameReads (a : AssignmentId) (s₁ s₂ : State) : Prop where
  get : ∀ user manages, user.role = .student → get s₁.db user a manages = get s₂.db user a manages
  mine : ∀ user, (mine s₁.db user).filter (·.id == a) = (mine s₂.db user).filter (·.id == a)
  getSubmission : ∀ user x row manages, s₁.db.submissions.get x = some row → row.assignmentId = a →
    row.studentId = user.sub → getSubmission s₁.db user x manages = getSubmission s₂.db user x manages
  points : s₁.emitted.filter (·.assignmentId == a) = s₂.emitted.filter (·.assignmentId == a)

/-! ## The invariant -/

/-- A task without the answer it may hold. -/
def Task.hide : Task → Task
  | .persist x r requirements _ => .persist x r requirements ⟨0, .low, "", [], []⟩
  | t => t

structure Twin (a : AssignmentId) (s₁ s₂ : State) : Prop where
  off : ∃ assignment, s₁.db.assignments.get a = some assignment ∧ assignment.showAiToStudents = false
  db : Alike a s₁.db s₂.db
  gemini : s₁.gemini = s₂.gemini
  points : s₁.emitted.filter (·.assignmentId == a) = s₂.emitted.filter (·.assignmentId == a)
  tasks : ∀ i, (s₁.tasks.get i).map Task.hide = (s₂.tasks.get i).map Task.hide
  /-- A board of the assignment is made without the scores of the AI model. -/
  boards : ∀ i sessionId courseId showAi, s₁.tasks.get i = some (.board a sessionId courseId showAi) → showAi = false

/-! ## Rows that stay alike -/

section Writes

variable {a : AssignmentId}

theorem hideRow_setStatus (row : CodingSubmission) (st : CodingSubmissionStatus) :
    hideRow a { hideRow a row with status := st } = hideRow a { row with status := st } := by
  unfold hideRow
  by_cases h : row.assignmentId = a
  · simp only [h, ite_true]
  · simp only [h, ite_false]

theorem hideRow_decided (row : CodingSubmission) (dto : DecisionDto) (userId : UserId) (now : Int) :
    hideRow a ((hideRow a row).decided dto userId now) = hideRow a (row.decided dto userId now) := by
  unfold hideRow CodingSubmission.decided
  by_cases h : row.assignmentId = a
  · simp only [h, ite_true]
  · simp only [h, ite_false]

/-- The score a review writes is hidden. -/
theorem hideRow_provisional (row : CodingSubmission) (score : Option Nat) (st : CodingSubmissionStatus) :
    hideRow a { row with provisionalScore := score, status := st } = hideRow a { row with status := st } := by
  unfold hideRow
  split <;> rfl

/-- In another assignment the status is hidden too. -/
theorem hideRow_status_of_ne {row : CodingSubmission} (h : row.assignmentId ≠ a) (st st' : CodingSubmissionStatus) :
    hideRow a { row with status := st } = hideRow a { row with status := st' } := by
  unfold hideRow
  rw [if_neg h, if_neg h]

/-- A write that does not look at what is hidden keeps rows alike. -/
theorem hideRow_write {f : CodingSubmission → CodingSubmission}
    (hf : ∀ row, hideRow a (f (hideRow a row)) = hideRow a (f row))
    {row₁ row₂ : CodingSubmission} (h : hideRow a row₁ = hideRow a row₂) : hideRow a (f row₁) = hideRow a (f row₂) := by
  rw [← hf row₁, h, hf row₂]

end Writes

namespace Alike

variable {a : AssignmentId} {db₁ db₂ : Db}

/-- Both runs write the row of one submission. -/
theorem modify (h : Alike a db₁ db₂) {x : SubmissionId} {f₁ f₂ : CodingSubmission → CodingSubmission}
    (hf : ∀ row₁ row₂, db₁.submissions.get x = some row₁ → hideRow a row₁ = hideRow a row₂ →
      hideRow a (f₁ row₁) = hideRow a (f₂ row₂))
    (reviews₁ reviews₂ : Table ReviewId CodingAiReview) :
    Alike a { db₁ with submissions := db₁.submissions.modify x f₁, reviews := reviews₁ }
      { db₂ with submissions := db₂.submissions.modify x f₂, reviews := reviews₂ } where
  assignments := h.assignments
  submissions := by
    dsimp only
    rw [Table.entries_modify, Table.entries_modify]
    refine map_map_hidden h.submissions fun e₁ he₁ e₂ _ heq => ?_
    obtain ⟨x₁, row₁⟩ := e₁
    obtain ⟨x₂, row₂⟩ := e₂
    obtain ⟨rfl, hrow⟩ := Prod.mk.injEq .. ▸ heq
    by_cases hx : x₁ = x
    · subst hx
      simp only [ite_true, hideEntry, Prod.mk.injEq, true_and]
      exact hf row₁ row₂ (Table.get_of_mem he₁) hrow
    · simp only [hx, ite_false]
      exact heq
  files := h.files
  feedback := h.feedback
  students := h.students
  enrollments := h.enrollments
  courses := h.courses
  sessions := h.sessions

theorem assignmentOf (h : Alike a db₁ db₂) (x : SubmissionId) :
    (db₁.submissions.get x).map (·.assignmentId) = (db₂.submissions.get x).map (·.assignmentId) :=
  option_map_eq (h.get_eq x) (fun _ _ => hideRow_assignmentId) fun _ _ => hideRow_assignmentId

/-- The same submission is handed in. -/
theorem submit (h : Alike a db₁ db₂) {x : SubmissionId} (hx₁ : db₁.submissions.get x = none)
    (hx₂ : db₂.submissions.get x = none) (row : CodingSubmission) (files : List (SubmissionId × CodingSubmissionFile)) :
    Alike a { db₁ with submissions := db₁.submissions.insert x row, files := db₁.files ++ files }
      { db₂ with submissions := db₂.submissions.insert x row, files := db₂.files ++ files } where
  assignments := h.assignments
  submissions := by
    dsimp only
    rw [Table.entries_insert hx₁, Table.entries_insert hx₂, List.map_append, List.map_append, h.submissions]
  files := by
    dsimp only
    rw [h.files]
  feedback := h.feedback
  students := h.students
  enrollments := h.enrollments
  courses := h.courses
  sessions := h.sessions

/-- The same feedback is written; what the reviews hold does not matter. -/
theorem addFeedback (h : Alike a db₁ db₂) (rows : List CodingFeedback)
    (reviews₁ reviews₂ : Table ReviewId CodingAiReview) :
    Alike a { db₁ with feedback := db₁.feedback ++ rows, reviews := reviews₁ }
      { db₂ with feedback := db₂.feedback ++ rows, reviews := reviews₂ } where
  assignments := h.assignments
  submissions := h.submissions
  files := h.files
  feedback := by
    dsimp only
    rw [h.feedback]
  students := h.students
  enrollments := h.enrollments
  courses := h.courses
  sessions := h.sessions

end Alike

/-! ## Tasks that are alike -/

def Task.isPersist : Task → Bool
  | .persist .. => true
  | _ => false

@[simp] theorem isPersist_hide (t : Task) : t.hide.isPersist = t.isPersist := by
  cases t <;> rfl

theorem hide_of_not {t : Task} (h : t.isPersist = false) : t.hide = t := by
  cases t <;> first | rfl | cases h

theorem persist_of {t : Task} (h : t.isPersist = true) : ∃ x r requirements out, t = .persist x r requirements out := by
  cases t with
  | persist x r requirements out => exact ⟨x, r, requirements, out, rfl⟩
  | _ => cases h

/-- Tasks that are alike are equal, or store two answers in one place. -/
theorem hide_cases {t₁ t₂ : Task} (h : t₁.hide = t₂.hide) : t₁ = t₂ ∨
    ∃ x r requirements out₁ out₂, t₁ = .persist x r requirements out₁ ∧ t₂ = .persist x r requirements out₂ := by
  have hsame : t₁.isPersist = t₂.isPersist := by rw [← isPersist_hide t₁, h, isPersist_hide]
  cases hp : t₁.isPersist with
  | false =>
    rw [hide_of_not hp, hide_of_not (hsame ▸ hp)] at h
    exact .inl h
  | true =>
    obtain ⟨x, r, requirements, out₁, rfl⟩ := persist_of hp
    obtain ⟨y, r', requirements', out₂, rfl⟩ := persist_of (hsame ▸ hp)
    cases h
    exact .inr ⟨x, r, requirements, out₁, out₂, rfl, rfl⟩

@[simp] theorem caught_hide (t : Task) (message : String) : t.hide.caught message = t.caught message := by
  cases t <;> rfl

namespace Twin

variable {a : AssignmentId} {s₁ s₂ s₁' s₂' : State} {i : Nat}

/-- The task of the second run beside that of the first. -/
theorem task (h : Twin a s₁ s₂) {t₁ t₂ : Task} (h₁ : s₁.tasks.get i = some t₁) (h₂ : s₂.tasks.get i = some t₂) :
    t₁.hide = t₂.hide := by
  have ht := h.tasks i
  rw [h₁, h₂] at ht
  exact Option.some.inj ht

theorem task_eq (h : Twin a s₁ s₂) {t₁ t₂ : Task} (h₁ : s₁.tasks.get i = some t₁) (h₂ : s₂.tasks.get i = some t₂)
    (hp : t₁.isPersist = false) : t₁ = t₂ := by
  rcases hide_cases (h.task h₁ h₂) with heq | ⟨x, r, requirements, out₁, out₂, rfl, -⟩
  · exact heq
  · cases hp

theorem goto (h : Twin a s₁ s₂) {t₁ t₂ : Option Task} (ht : t₁.map Task.hide = t₂.map Task.hide)
    (hb : ∀ sessionId courseId showAi, t₁ = some (.board a sessionId courseId showAi) → showAi = false) :
    Twin a (s₁.goto i t₁) (s₂.goto i t₂) where
  off := h.off
  db := h.db
  gemini := h.gemini
  points := h.points
  tasks := by
    intro j
    rw [State.goto, State.goto, Pool.get_put, Pool.get_put]
    by_cases hj : j = i
    · subst hj
      rw [Slots.put_self, Slots.put_self, ht]
    · rw [Slots.put_of_ne _ _ hj, Slots.put_of_ne _ _ hj]
      exact h.tasks j
  boards := by
    intro j sessionId courseId showAi hj
    rcases Pool.get_put_cases hj with ⟨-, hj⟩ | ⟨-, hj⟩
    · exact hb sessionId courseId showAi hj
    · exact h.boards j sessionId courseId showAi hj

/-- Both runs go on to the same task, which is no board. -/
theorem goto_same (h : Twin a s₁ s₂) {t : Option Task}
    (hb : ∀ sessionId courseId showAi, t ≠ some (.board a sessionId courseId showAi)) :
    Twin a (s₁.goto i t) (s₂.goto i t) :=
  h.goto rfl fun sessionId courseId showAi ht => absurd ht (hb sessionId courseId showAi)

/-- Both runs write to the database. -/
theorem write (h : Twin a s₁ s₂) (hdb : Alike a s₁'.db s₂'.db) (hassign : s₁'.db.assignments = s₁.db.assignments)
    (hgemini : s₁'.gemini = s₁.gemini ∧ s₂'.gemini = s₂.gemini)
    (hemitted : s₁'.emitted = s₁.emitted ∧ s₂'.emitted = s₂.emitted)
    (htasks : s₁'.tasks = s₁.tasks ∧ s₂'.tasks = s₂.tasks) : Twin a s₁' s₂' where
  off := by
    rw [hassign]
    exact h.off
  db := hdb
  gemini := by
    rw [hgemini.1, hgemini.2]
    exact h.gemini
  points := by
    rw [hemitted.1, hemitted.2]
    exact h.points
  tasks := by
    rw [htasks.1, htasks.2]
    exact h.tasks
  boards := by
    rw [htasks.1]
    exact h.boards

theorem setStatus (h : Twin a s₁ s₂) (x : SubmissionId) (st : CodingSubmissionStatus) :
    Twin a (s₁.setStatus x st) (s₂.setStatus x st) :=
  h.write (h.db.modify (fun _ _ _ heq => hideRow_write (hideRow_setStatus · st) heq) _ _) rfl ⟨rfl, rfl⟩ ⟨rfl, rfl⟩
    ⟨rfl, rfl⟩

theorem fail (h : Twin a s₁ s₂) (x : SubmissionId) (r : ReviewId) (message : String) :
    Twin a (s₁.fail x r message) (s₂.fail x r message) :=
  h.write (h.db.modify (fun _ _ _ heq => hideRow_write (hideRow_setStatus · .needsReview) heq) _ _) rfl ⟨rfl, rfl⟩
    ⟨rfl, rfl⟩ ⟨rfl, rfl⟩

/-- Two answers are stored that agree in what the status shows of them. -/
theorem persist (h : Twin a s₁ s₂) (x : SubmissionId) (r : ReviewId) (requirements : List CodingRequirement)
    {out₁ out₂ : ReviewOutput}
    (hagree : ∀ row, s₁.db.submissions.get x = some row → row.assignmentId = a →
      persistedStatus out₁ = persistedStatus out₂) :
    Twin a (s₁.persist x r requirements out₁) (s₂.persist x r requirements out₂) := by
  refine h.write (h.db.modify (fun row₁ row₂ hrow heq => ?_) _ _) rfl ⟨rfl, rfl⟩ ⟨rfl, rfl⟩ ⟨rfl, rfl⟩
  rw [hideRow_provisional, hideRow_provisional]
  have hsame : hideRow a { row₁ with status := persistedStatus out₂ } =
      hideRow a { row₂ with status := persistedStatus out₂ } :=
    hideRow_write (f := fun row => { row with status := persistedStatus out₂ })
      (hideRow_setStatus · (persistedStatus out₂)) heq
  by_cases ha : row₁.assignmentId = a
  · rw [hagree row₁ hrow ha]
    exact hsame
  · rw [hideRow_status_of_ne ha (persistedStatus out₁) (persistedStatus out₂)]
    exact hsame

theorem decide (h : Twin a s₁ s₂) (x : SubmissionId) (userId : UserId) (dto : DecisionDto) (now : Int) :
    Twin a (s₁.decide x userId dto now) (s₂.decide x userId dto now) := by
  refine h.write ?_ rfl ⟨rfl, rfl⟩ ⟨rfl, rfl⟩ ⟨rfl, rfl⟩
  exact (h.db.addFeedback _ s₁.db.reviews s₂.db.reviews).modify
    (fun _ _ _ heq => hideRow_write (hideRow_decided · dto userId now) heq) _ _

/-- A board of the class is emitted in both runs. -/
theorem emit (h : Twin a s₁ s₂) {b : AssignmentId} (sessionId : SessionId) (courseId : CourseId) {showAi : Bool}
    (hshow : b = a → showAi = false) :
    Twin a (s₁.emit ⟨sessionId, b, standings s₁.db b courseId showAi⟩)
      (s₂.emit ⟨sessionId, b, standings s₂.db b courseId showAi⟩) where
  off := h.off
  db := h.db
  gemini := h.gemini
  points := by
    show (s₁.emitted ++ [_]).filter _ = (s₂.emitted ++ [_]).filter _
    rw [List.filter_append, List.filter_append, h.points]
    by_cases hb : b = a
    · subst hb
      rw [hshow rfl, standings_alike h.db]
    · rw [List.filter_cons_of_neg (by simpa using hb), List.filter_cons_of_neg (by simpa using hb)]
  tasks := h.tasks
  boards := h.boards

theorem load_eq (h : Twin a s₁ s₂) (x : SubmissionId) :
    ((s₁.db.submissions.get x).bind fun row =>
        (s₁.db.assignments.get row.assignmentId).map fun b => Task.create x b.requirements) =
      (s₂.db.submissions.get x).bind fun row =>
        (s₂.db.assignments.get row.assignmentId).map fun b => Task.create x b.requirements := by
  have hbind : ∀ db : Db, ((db.submissions.get x).bind fun row =>
        (db.assignments.get row.assignmentId).map fun b => Task.create x b.requirements) =
      ((db.submissions.get x).map (·.assignmentId)).bind fun id =>
        (db.assignments.get id).map fun b => Task.create x b.requirements := by
    intro db
    rw [Option.bind_map]
    rfl
  rw [hbind, hbind, h.db.assignmentOf, h.db.assignments]

theorem resume (h : Twin a s₁ s₂) {t₁ t₂ : Task} (h₁ : s₁.tasks.get i = some t₁) (h₂ : s₂.tasks.get i = some t₂)
    (hagree : ∀ x r requirements out₁ out₂, t₁ = .persist x r requirements out₁ → t₂ = .persist x r requirements out₂ →
      ∀ row, s₁.db.submissions.get x = some row → row.assignmentId = a → persistedStatus out₁ = persistedStatus out₂)
    (hs₁ : Coding.resume s₁ i t₁ = some s₁') (hs₂ : Coding.resume s₂ i t₂ = some s₂') : Twin a s₁' s₂' := by
  rcases hide_cases (h.task h₁ h₂) with rfl | ⟨x, r, requirements, out₁, out₂, rfl, rfl⟩
  · cases t₁ with
    | load x =>
      cases hs₁
      cases hs₂
      rw [h.load_eq x]
      refine h.goto_same fun sessionId courseId showAi ht => ?_
      obtain ⟨row, -, ht⟩ := Option.bind_eq_some_iff.1 ht
      obtain ⟨b, -, ht⟩ := Option.map_eq_some_iff.1 ht
      cases ht
    | start x r requirements =>
      cases hs₁
      cases hs₂
      have hw := h.setStatus x .underReview
      rw [h.gemini]
      refine hw.goto_same fun sessionId courseId showAi ht => ?_
      split at ht <;> cases ht
    | readText x r requirements =>
      cases hs₁
      cases hs₂
      exact h.goto_same fun sessionId courseId showAi ht => by cases ht
    | persist x r requirements out =>
      cases hs₁
      cases hs₂
      have hw : Twin a (s₁.persist x r requirements out) (s₂.persist x r requirements out) :=
        h.persist x r requirements fun _ _ _ => rfl
      exact hw.goto_same fun sessionId courseId showAi ht => by cases ht
    | fail x r message =>
      cases hs₁
      cases hs₂
      have hw := h.fail x r message
      exact hw.goto_same fun sessionId courseId showAi ht => by cases ht
    | refreshing x r =>
      cases hs₁
      cases hs₂
      exact h.goto_same fun sessionId courseId showAi ht => by cases ht
    | points b =>
      cases hs₁
      cases hs₂
      rw [← h.db.assignments]
      refine h.goto rfl fun sessionId courseId showAi ht => ?_
      obtain ⟨row, hrow, ht⟩ := Option.bind_eq_some_iff.1 ht
      obtain ⟨sessionId', -, ht⟩ := Option.map_eq_some_iff.1 ht
      cases ht
      obtain ⟨assignment, ha, hoff⟩ := h.off
      rw [ha] at hrow
      cases hrow
      exact hoff
    | board b sessionId courseId showAi =>
      cases hs₁
      cases hs₂
      have hshow : b = a → showAi = false := by
        rintro rfl
        exact h.boards i sessionId courseId showAi h₁
      have hw := h.emit sessionId courseId hshow
      exact hw.goto_same fun sessionId courseId showAi ht => by cases ht
    | decideLoad x userId dto =>
      cases hs₁
      cases hs₂
      have hload : ((s₁.db.submissions.get x).map fun _ => Task.decideManage x userId dto) =
          (s₂.db.submissions.get x).map fun _ => Task.decideManage x userId dto :=
        option_map_eq (h.db.get_eq x) (fun _ _ => rfl) fun _ _ => rfl
      rw [hload]
      refine h.goto_same fun sessionId courseId showAi ht => ?_
      obtain ⟨row, -, ht⟩ := Option.map_eq_some_iff.1 ht
      cases ht
    | decideManage x userId dto =>
      cases hs₁
      cases hs₂
      exact h.goto_same fun sessionId courseId showAi ht => by cases ht
    | create | render | callGemini | refresh | decide => cases hs₁
  · cases hs₁
    cases hs₂
    have hw := h.persist x r requirements (hagree x r requirements out₁ out₂ rfl rfl)
    exact hw.goto_same fun sessionId courseId showAi ht => by cases ht

theorem submit (h : Twin a s₁ s₂) {x : SubmissionId} (hx₁ : s₁.db.submissions.get x = none)
    (hx₂ : s₂.db.submissions.get x = none) (row : CodingSubmission) (files : List CodingSubmissionFile) :
    Twin a (s₁.submit x row files) (s₂.submit x row files) :=
  h.write (h.db.submit hx₁ hx₂ row _) rfl ⟨rfl, rfl⟩ ⟨rfl, rfl⟩ ⟨rfl, rfl⟩

theorem refreshed (h : Twin a s₁ s₂) {x : SubmissionId} {row₁ row₂ : CodingSubmission}
    (h₁ : s₁.db.submissions.get x = some row₁) (h₂ : s₂.db.submissions.get x = some row₂) :
    row₁.assignmentId = row₂.assignmentId := by
  have heq := h.db.assignmentOf x
  rw [h₁, h₂] at heq
  exact Option.some.inj heq

/-- Both runs take the same event. -/
theorem step (h : Twin a s₁ s₂) {e : Event} (hagree : agrees a (s₁, s₂) (e, e) = true)
    (hs₁ : Coding.step s₁ e = some s₁') (hs₂ : Coding.step s₂ e = some s₂') : Twin a s₁' s₂' := by
  cases e with
  | submit x row files =>
    obtain ⟨⟨hx₁, -⟩, h₁⟩ := Option.ite_none_right_eq_some.1 hs₁
    obtain ⟨⟨hx₂, -⟩, h₂⟩ := Option.ite_none_right_eq_some.1 hs₂
    cases h₁
    cases h₂
    exact h.submit hx₁ hx₂ row files
  | addFeedback row =>
    cases hs₁
    cases hs₂
    exact h.write (h.db.addFeedback [row] s₁.db.reviews s₂.db.reviews) rfl ⟨rfl, rfl⟩ ⟨rfl, rfl⟩ ⟨rfl, rfl⟩
  | enqueue | decide | launch =>
    obtain ⟨-, h₁⟩ := Option.ite_none_right_eq_some.1 hs₁
    obtain ⟨-, h₂⟩ := Option.ite_none_right_eq_some.1 hs₂
    cases h₁
    cases h₂
    exact h.goto_same fun sessionId courseId showAi ht => by cases ht
  | resume i =>
    obtain ⟨t₁, h₁, hs₁⟩ := Option.bind_eq_some_iff.1 hs₁
    obtain ⟨t₂, h₂, hs₂⟩ := Option.bind_eq_some_iff.1 hs₂
    refine h.resume h₁ h₂ ?_ hs₁ hs₂
    rintro x r requirements out₁ out₂ rfl rfl row hrow ha
    simp only [agrees, h₁, h₂, hrow, Option.all_some, ha, bne_self_eq_false, Bool.false_or, beq_iff_eq] at hagree
    unfold persistedStatus
    by_cases hlow : out₁.confidence = .low
    · have hlow₂ : out₂.confidence = .low := by simpa [hlow] using hagree.symm
      rw [if_pos hlow, if_pos hlow₂]
    · have hlow₂ : ¬ out₂.confidence = .low := by
        intro heq
        simp [heq, hlow] at hagree
      rw [if_neg hlow, if_neg hlow₂]
  | created i r =>
    obtain ⟨x, requirements, h₁, -, rfl⟩ := step_created hs₁
    obtain ⟨y, requirements', h₂, -, rfl⟩ := step_created hs₂
    cases h.task_eq h₁ h₂ rfl
    have hdb := h.db.addFeedback [] (s₁.create x r).db.reviews (s₂.create x r).db.reviews
    rw [List.append_nil, List.append_nil] at hdb
    have hw : Twin a (s₁.create x r) (s₂.create x r) := h.write hdb rfl ⟨rfl, rfl⟩ ⟨rfl, rfl⟩ ⟨rfl, rfl⟩
    exact hw.goto_same fun sessionId courseId showAi ht => by cases ht
  | rendered i fromCommit =>
    obtain ⟨x, r, requirements, h₁, rfl⟩ := step_rendered hs₁
    obtain ⟨y, r', requirements', h₂, rfl⟩ := step_rendered hs₂
    cases h.task_eq h₁ h₂ rfl
    exact h.goto_same fun sessionId courseId showAi ht => by split at ht <;> cases ht
  | answered i out =>
    obtain ⟨x, r, requirements, h₁, rfl⟩ := step_answered hs₁
    obtain ⟨y, r', requirements', h₂, rfl⟩ := step_answered hs₂
    cases h.task_eq h₁ h₂ rfl
    exact h.goto_same fun sessionId courseId showAi ht => by cases ht
  | refreshed i j =>
    obtain ⟨x, r, h₁, hcase₁⟩ := step_refreshed hs₁
    obtain ⟨y, r', h₂, hcase₂⟩ := step_refreshed hs₂
    cases h.task_eq h₁ h₂ rfl
    have hget := h.db.assignmentOf x
    rcases hcase₁ with ⟨row₁, hrow₁, rfl⟩ | ⟨hnone₁, rfl⟩
    · rcases hcase₂ with ⟨row₂, hrow₂, rfl⟩ | ⟨hnone₂, rfl⟩
      · rw [h.refreshed hrow₁ hrow₂]
        have hw : Twin a (s₁.goto i (some (.refreshing x r))) (s₂.goto i (some (.refreshing x r))) :=
          h.goto_same fun sessionId courseId showAi ht => by cases ht
        exact hw.goto_same fun sessionId courseId showAi ht => by cases ht
      · rw [hrow₁, hnone₂] at hget
        cases hget
    · rcases hcase₂ with ⟨row₂, hrow₂, rfl⟩ | ⟨hnone₂, rfl⟩
      · rw [hnone₁, hrow₂] at hget
        cases hget
      · exact h.goto_same fun sessionId courseId showAi ht => by cases ht
  | decided i now =>
    obtain ⟨x, userId, dto, row₁, h₁, -, rfl⟩ := step_decided hs₁
    obtain ⟨y, userId', dto', row₂, h₂, -, rfl⟩ := step_decided hs₂
    cases h.task_eq h₁ h₂ rfl
    have hw := h.decide x userId dto now
    exact hw.goto_same fun sessionId courseId showAi ht => by cases ht
  | throws i message =>
    obtain ⟨t₁, h₁, rfl⟩ := Option.map_eq_some_iff.1 hs₁
    obtain ⟨t₂, h₂, rfl⟩ := Option.map_eq_some_iff.1 hs₂
    have heq : t₁.caught message = t₂.caught message := by
      rw [← caught_hide t₁, h.task h₁ h₂, caught_hide]
    rw [heq]
    refine h.goto_same fun sessionId courseId showAi ht => ?_
    cases t₂ with
    | refresh x r => cases r <;> cases ht
    | refreshing x r => cases r <;> cases ht
    | _ => cases ht

/-- Both runs take the same event, but for what the AI model answers. -/
theorem pairStep (h : Twin a s₁ s₂) {e : Event × Event} (hdiffers : differsOnly e = true)
    (hagree : agrees a (s₁, s₂) e = true) (hstep : Coding.pairStep (s₁, s₂) e = some (s₁', s₂')) :
    Twin a s₁' s₂' := by
  obtain ⟨e₁, e₂⟩ := e
  obtain ⟨t₁, hs₁, hstep⟩ := Option.bind_eq_some_iff.1 hstep
  obtain ⟨t₂, hs₂, heq⟩ := Option.map_eq_some_iff.1 hstep
  cases heq
  by_cases heq : e₁ = e₂
  · subst heq
    exact h.step hagree hs₁ hs₂
  · unfold differsOnly at hdiffers
    split at hdiffers
    · rename_i i out₁ j out₂ hpair
      cases hpair
      rw [beq_iff_eq] at hdiffers
      subst hdiffers
      obtain ⟨x, r, requirements, h₁, rfl⟩ := step_answered hs₁
      obtain ⟨y, r', requirements', h₂, rfl⟩ := step_answered hs₂
      cases h.task_eq h₁ h₂ rfl
      exact h.goto rfl fun sessionId courseId showAi ht => by cases ht
    · rename_i hpair
      cases hpair
      exact absurd (of_decide_eq_true hdiffers) heq

end Twin

/-! ## The theorem -/

theorem Twin.sameReads {a : AssignmentId} {s₁ s₂ : State} (h : Twin a s₁ s₂) : SameReads a s₁ s₂ where
  get := by
    intro user manages hrole
    obtain ⟨assignment, ha, hoff⟩ := h.off
    exact get_alike h.db ha hoff hrole manages
  mine := by
    intro user
    obtain ⟨assignment, ha, hoff⟩ := h.off
    exact mine_alike h.db ha hoff user
  getSubmission := by
    intro user x row manages hrow hid howner
    obtain ⟨assignment, ha, hoff⟩ := h.off
    exact getSubmission_alike h.db ha hoff hrow hid howner manages
  points := h.points

theorem twin_init {a : AssignmentId} {s : State} {assignment : CodingAssignment}
    (ha : s.db.assignments.get a = some assignment) (hoff : assignment.showAiToStudents = false)
    (hrest : s.tasks = Pool.empty) : Twin a s s where
  off := ⟨assignment, ha, hoff⟩
  db := ⟨rfl, rfl, rfl, rfl, rfl, rfl, rfl, rfl⟩
  gemini := rfl
  points := rfl
  tasks := fun _ => rfl
  boards := by
    intro i sessionId courseId showAi hi
    rw [hrest, Pool.get_empty] at hi
    cases hi

namespace Example

def student : JwtPayload := ⟨"amina", .student, "Amina", none, none, none⟩

def poor : ReviewOutput := ⟨20, .medium, "Lists nothing.", [⟨"q1", .fail⟩], [⟨.bug, "Empty", "Returns [].", .high⟩]⟩

/-- Two runs of a submission, its review and a ruling, in which the AI model answers `out₁` and
`out₂`. -/
def pair (out₁ out₂ : ReviewOutput) : List (Event × Event) :=
  let before := [.submit "x" row [], .enqueue 0 "x", .resume 0, .created 0 "r1", .resume 0, .rendered 0 true]
  let after := [.resume 0, .refreshed 0 1, .resume 0, .resume 1, .resume 1] ++ rule 0 1 .pass 10
  before.map (fun e => (e, e)) ++ [(.answered 0 out₁, .answered 0 out₂)] ++ after.map (fun e => (e, e))

/-- The same two runs, up to the storing of the answer and the board of the class. -/
def stored (out₁ out₂ : ReviewOutput) : List (Event × Event) := (pair out₁ out₂).take 12

/-- The status and the score student `amina` reads of submission `x`, and the statuses on the boards. -/
def reads (s : State) : Option (CodingSubmissionStatus × Option Nat) × List (List (Option CodingSubmissionStatus)) :=
  ((getSubmission s.db student "x" (.ok ())).toOption.map fun detail =>
      (detail.row.status, detail.row.provisionalScore),
    s.emitted.map fun m => m.entries.map (·.status))

end Example

end Livetich.Coding
