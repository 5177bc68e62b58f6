/-
One sitting per exam: a student has at most one submitted attempt at an exam, and a submitted attempt and its answers
stay as they are.
-/
import Livetich.Exams.Model

namespace Livetich.Exams

open TransSys Livetich.Lib

/-- No student has two submitted attempts at one exam. -/
def OneSitting (s : State) : Prop :=
  ∀ a b rowa rowb, s.attempts.get a = some rowa → s.attempts.get b = some rowb → rowa.examId = rowb.examId →
    rowa.studentId = rowb.studentId → rowa.submittedAt.isSome = true → rowb.submittedAt.isSome = true → a = b

/-- What is submitted stays: when, the score and the answers. -/
def Final (s t : State) : Prop :=
  ∀ a row, s.attempts.get a = some row → row.submittedAt.isSome = true →
    (∃ row', t.attempts.get a = some row' ∧ row'.submittedAt = row.submittedAt ∧ row'.score = row.score) ∧
      t.answersOf a = s.answersOf a

/-- When the transaction of a submission begins, the student has no submitted attempt at the exam. -/
def firstSitting (s : State) : Event → Bool
  | .resume i _ => match s.calls.get i with
    | some (.transaction attemptId _ _ _) =>
      (s.attempts.get attemptId).all fun row => !s.sat row.examId row.studentId
    | _ => true
  | _ => true

theorem Final.refl (s : State) : Final s s := fun _ row hrow _ => ⟨⟨row, hrow, rfl, rfl⟩, rfl⟩

theorem Final.trans (s t u : State) (h : Final s t) (h' : Final t u) : Final s u := by
  intro a row hrow hsub
  obtain ⟨⟨row', hrow', hat, hscore⟩, hanswers⟩ := h a row hrow hsub
  obtain ⟨⟨row'', hrow'', hat', hscore'⟩, hanswers'⟩ := h' a row' hrow' (by rw [hat, hsub])
  exact ⟨⟨row'', hrow'', hat'.trans hat, hscore'.trans hscore⟩, hanswers'.trans hanswers⟩

/-- What a step does to the attempts and the answers. -/
theorem step_attempts {s s' : State} {e : Event} (h : step s e = some s') :
    (s'.attempts = s.attempts ∧ s'.answers = s.answers) ∨
    (∃ row : ExamAttempt, row.submittedAt = none ∧ s'.attempts = s.attempts.insert s.nextId row ∧
      s'.answers = s.answers) ∨
    (∃ i now attemptId chosen score submittedAt s₁, e = .resume i now ∧
      s.calls.get i = some (.transaction attemptId chosen score submittedAt) ∧
      s.submit attemptId chosen score submittedAt = some s₁ ∧ s'.attempts = s₁.attempts ∧ s'.answers = s₁.answers) := by
  cases e with
  | createExam examId exam questions =>
    rw [step] at h
    split at h
    · cases h
    · cases h
      exact .inl ⟨rfl, rfl⟩
  | startAttempt user examId =>
    cases h
    exact .inl ⟨rfl, rfl⟩
  | submit user attemptId answers =>
    cases h
    exact .inl ⟨rfl, rfl⟩
  | updateExam user courseId examId dto =>
    cases h
    exact .inl ⟨rfl, rfl⟩
  | fail i =>
    obtain ⟨t, -, rfl⟩ := Option.map_eq_some_iff.1 h
    exact .inl ⟨rfl, rfl⟩
  | change access =>
    cases h
    exact .inl ⟨rfl, rfl⟩
  | resume i now =>
    obtain ⟨t, ht, rfl⟩ := Option.map_eq_some_iff.1 h
    have hrows : (s.settle i (act s now t)).attempts = (act s now t).1.attempts ∧
        (s.settle i (act s now t)).answers = (act s now t).1.answers := ⟨rfl, rfl⟩
    rw [hrows.1, hrows.2]
    rcases act_rows s now t with hsame | ⟨user, examId, rfl, -, hact⟩ |
      ⟨attemptId, chosen, score, submittedAt, rfl, hact⟩ | ⟨examId, dto, rfl, hact⟩ | ⟨examId, dto, rfl, hact⟩
    · rw [hsame]
      exact .inl ⟨rfl, rfl⟩
    · rw [hact]
      exact .inr (.inl ⟨_, rfl, rfl, rfl⟩)
    · exact .inr (.inr ⟨i, now, attemptId, chosen, score, submittedAt, _, rfl, ht, hact, rfl, rfl⟩)
    · exact .inl (deleteQuestions_rows hact).2
    · rw [hact]
      exact .inl ⟨rfl, rfl⟩

/-- A student who has not sat the exam has no submitted attempt at it. -/
theorem sat_iff {s : State} {examId : ExamId} {studentId : UserId} : s.sat examId studentId = true ↔
    ∃ a row, s.attempts.get a = some row ∧ row.examId = examId ∧ row.studentId = studentId ∧
      row.submittedAt.isSome = true := by
  unfold State.sat ExamAttempt.of
  rw [List.any_eq_true]
  constructor
  · rintro ⟨⟨a, row⟩, hrow, hof⟩
    simp only [Bool.and_eq_true, beq_iff_eq] at hof
    exact ⟨a, row, Table.get_of_mem hrow, hof.1.1, hof.1.2, hof.2⟩
  · rintro ⟨a, row, hrow, hexam, hstudent, hsub⟩
    refine ⟨(a, row), Table.mem_of_get hrow, ?_⟩
    simp only [Bool.and_eq_true, beq_iff_eq]
    exact ⟨⟨hexam, hstudent⟩, hsub⟩

/-- The answers of another attempt are not written. -/
theorem answersOf_submit {s s' : State} {attemptId : AttemptId} {chosen : List (QuestionId × Nat)} {score : Int}
    {submittedAt : Nat} (h : s.submit attemptId chosen score submittedAt = some s') {a : AttemptId}
    (ha : a ≠ attemptId) : s'.answersOf a = s.answersOf a := by
  unfold State.submit at h
  split at h
  · cases h
  · cases h
    unfold State.answersOf
    simp only
    rw [List.filter_append, List.filter_filter]
    have hnew : (chosen.map fun c => (⟨attemptId, c.1, c.2⟩ : ExamAnswer)).filter (·.attemptId == a) = [] := by
      rw [List.filter_eq_nil_iff]
      rintro answer hanswer
      obtain ⟨c, -, rfl⟩ := List.mem_map.1 hanswer
      simp [Ne.symm ha]
    rw [hnew, List.append_nil]
    refine List.filter_congr fun answer _ => ?_
    by_cases hof : answer.attemptId = a
    · simp [hof, ha]
    · simp [hof]

theorem step_oneSitting {s s' : State} {e : Event} (hs : OneSitting s) (hok : firstSitting s e = true)
    (h : step s e = some s') : OneSitting s' ∧ Final s s' := by
  rcases step_attempts h with ⟨hattempts, hanswers⟩ | ⟨row, hopen, hattempts, hanswers⟩ |
    ⟨i, now, attemptId, chosen, score, submittedAt, s₁, rfl, htask, hsubmit, hattempts, hanswers⟩
  · refine ⟨?_, fun a row hrow hsub => ⟨⟨row, ?_, rfl, rfl⟩, ?_⟩⟩
    · unfold OneSitting
      rw [hattempts]
      exact hs
    · rw [hattempts, hrow]
    · unfold State.answersOf
      rw [hanswers]
  · -- a new attempt is not submitted yet
    have hold : ∀ a r, s'.attempts.get a = some r → r.submittedAt.isSome = true → s.attempts.get a = some r := by
      intro a r hr hsub
      rw [hattempts] at hr
      cases hnext : s.attempts.get s.nextId with
      | some q =>
        unfold Table.insert at hr
        rw [dif_pos (Table.mem_keys.2 ⟨q, hnext⟩)] at hr
        exact hr
      | none =>
        rw [Table.get_insert hnext] at hr
        split at hr
        · cases hr
          rw [hopen] at hsub
          cases hsub
        · exact hr
    refine ⟨fun a b rowa rowb ha hb hexam hstudent hsa hsb => ?_, fun a r hr hsub => ⟨⟨r, ?_, rfl, rfl⟩, ?_⟩⟩
    · exact hs a b rowa rowb (hold a rowa ha hsa) (hold b rowb hb hsb) hexam hstudent hsa hsb
    · rw [hattempts]
      exact Table.get_insert_of_some hr _ _
    · unfold State.answersOf
      rw [hanswers]
  · -- the attempt of the transaction is the first that its student submits at the exam
    rw [(submit_rows hsubmit).2.2] at hattempts
    have hfirst : ∀ b rowb row, s.attempts.get attemptId = some row → s.attempts.get b = some rowb →
        rowb.examId = row.examId → rowb.studentId = row.studentId → rowb.submittedAt.isSome = true → False := by
      intro b rowb row hrow hb hexam hstudent hsb
      simp only [firstSitting, htask, hrow, Option.all_some, Bool.not_eq_true'] at hok
      have hsat := sat_iff.2 ⟨b, rowb, hb, hexam, hstudent, hsb⟩
      rw [hok] at hsat
      cases hsat
    have hget : ∀ a r, s'.attempts.get a = some r → (a = attemptId ∧ ∃ row, s.attempts.get attemptId = some row ∧
        r.examId = row.examId ∧ r.studentId = row.studentId) ∨ (a ≠ attemptId ∧ s.attempts.get a = some r) := by
      intro a r hr
      rw [hattempts] at hr
      by_cases ha : a = attemptId
      · subst ha
        rw [Table.get_modify_self] at hr
        obtain ⟨row, hrow, rfl⟩ := Option.map_eq_some_iff.1 hr
        exact .inl ⟨rfl, row, hrow, rfl, rfl⟩
      · rw [Table.get_modify_of_ne _ _ ha] at hr
        exact .inr ⟨ha, hr⟩
    refine ⟨fun a b rowa rowb ha hb hexam hstudent hsa hsb => ?_, fun a row hrow hsub => ?_⟩
    · rcases hget a rowa ha with ⟨rfl, row, hrow, hexama, hstudenta⟩ | ⟨hanea, holda⟩
      · rcases hget b rowb hb with ⟨hb', -⟩ | ⟨-, holdb⟩
        · exact hb'.symm
        · exact (hfirst b rowb row hrow holdb (hexam.symm.trans hexama) (hstudent.symm.trans hstudenta) hsb).elim
      · rcases hget b rowb hb with ⟨rfl, row, hrow, hexamb, hstudentb⟩ | ⟨-, holdb⟩
        · exact (hfirst a rowa row hrow holda (hexam.trans hexamb) (hstudent.trans hstudentb) hsa).elim
        · exact hs a b rowa rowb holda holdb hexam hstudent hsa hsb
    · have ha : a ≠ attemptId := by
        rintro rfl
        exact hfirst a row row hrow hrow rfl rfl hsub
      refine ⟨⟨row, ?_, rfl, rfl⟩, ?_⟩
      · rw [hattempts, Table.get_modify_of_ne _ _ ha, hrow]
      · rw [← answersOf_submit hsubmit ha]
        unfold State.answersOf
        rw [hanswers]

theorem oneSitting_init (access : Access) : OneSitting (init access) := by
  intro a b rowa rowb ha
  cases ha

namespace Example

def student : JwtPayload := ⟨"amina", .student, "Amina", none, none, none⟩

def access : Access := ⟨[("c", "amina")], [("c", "yusuf")]⟩

/-- An exam of one question, whose id is 0. -/
def opened : List Event := [.createExam "exam" ⟨"c", "Algebra", 60, true⟩ [⟨"1 + 1", ["1", "2"], 1, none⟩]]

/-- Amina starts and submits, and then submits once more: the second time it is too late. -/
def sits : List Event :=
  opened ++ [.startAttempt student "exam"] ++ List.replicate 5 (.resume 0 0) ++
    [.submit student 1 [⟨0, 1⟩], .resume 1 9, .resume 1 9]

def late : List Event := [.submit student 1 [⟨0, 0⟩], .resume 2 9]

/-- She starts in two tabs at once, each submits, and the second tab submits twice at once. -/
def tabs : List Event :=
  opened ++ [.startAttempt student "exam", .startAttempt student "exam"] ++
    List.replicate 4 (.resume 0 0) ++ List.replicate 4 (.resume 1 0) ++ [.resume 0 0, .resume 1 0] ++
    [.submit student 1 [⟨0, 1⟩], .submit student 2 [⟨0, 1⟩], .submit student 2 [⟨0, 0⟩]] ++
    [.resume 2 9, .resume 3 9, .resume 4 9, .resume 2 9, .resume 3 9]

def scores (s : State) : Option (Option Int) × Option (Option Int) :=
  ((s.attempts.get 1).map (·.score), (s.attempts.get 2).map (·.score))

end Example

end Livetich.Exams
