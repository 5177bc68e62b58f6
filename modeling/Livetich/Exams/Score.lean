/-
The score of a submission (`submit`): the loop over the answers with its two maps, and what the score says
about the answers. How a percentage is rounded is a parameter; the model has it in doubles, and here it is
exact, to the nearest integer and halves up.
-/
import Mathlib.Algebra.Order.Field.Basic
import Mathlib.Tactic.FieldSimp
import Mathlib.Tactic.Linarith
import Livetich.Exams.Model
import Livetich.Lib.Filled

namespace Livetich.Exams

open Livetich.Lib

/-! ## The loop -/

def correctById (questions : Table QuestionId ExamQuestion) : Table QuestionId Nat :=
  Table.setAll (·.1) (fun q => q.2.correctIndex) questions.entries

/-- `chosen`: only answers to real questions; last write wins on duplicates. -/
def chosenMap (questions : Table QuestionId ExamQuestion) (answers : List ExamAnswerDto) : Table QuestionId Nat :=
  Table.setAll (·.questionId) (·.chosenIndex)
    (answers.filter fun a => ((correctById questions).get a.questionId).isSome)

def countCorrect (questions : Table QuestionId ExamQuestion) (chosen : Table QuestionId Nat) : Nat :=
  chosen.entries.countP fun c => (correctById questions).get c.1 == some c.2

/-- What `submit` stores. -/
structure Submission where
  score : Int
  answers : List (QuestionId × Nat)

def grade (percent : Nat → Nat → Int) (questions : Table QuestionId ExamQuestion) (answers : List ExamAnswerDto)
    (expired : Bool) : Submission :=
  let chosen := chosenMap questions answers
  if expired then ⟨0, []⟩
  else ⟨percent (countCorrect questions chosen) questions.entries.length, chosen.entries⟩

/-- The percentage rounded to the nearest integer, and the greater one of two equally near. -/
def exactPercent (correct total : Nat) : Int :=
  if total = 0 then 0 else ((correct : Rat) / total * 100 + 1 / 2).floor

example : exactPercent 23 40 = 58 ∧ exactPercent 1 8 = 13 ∧ exactPercent 199 200 = 100 := by decide +kernel

/-! ## The last answer to each question -/

def lastAnswer (answers : List ExamAnswerDto) (k : QuestionId) : Option Nat :=
  (answers.filter fun a => a.questionId = k).getLast?.map (·.chosenIndex)

/-- How many questions the last answers get right. -/
def right (questions : Table QuestionId ExamQuestion) (answers : List ExamAnswerDto) : Nat :=
  questions.entries.countP fun q => lastAnswer answers q.1 == some q.2.correctIndex

@[simp] theorem get_correctById (questions : Table QuestionId ExamQuestion) (k : QuestionId) :
    (correctById questions).get k = (questions.get k).map (·.correctIndex) :=
  Table.get_setAll_entries questions (·.correctIndex) k

theorem get_chosenMap (questions : Table QuestionId ExamQuestion) (answers : List ExamAnswerDto) (k : QuestionId) :
    (chosenMap questions answers).get k = if (questions.get k).isSome then lastAnswer answers k else none := by
  unfold chosenMap lastAnswer
  rw [Table.get_setAll, List.filter_filter]
  split
  · rename_i hk
    congr 2
    refine List.filter_congr fun a _ => ?_
    by_cases ha : a.questionId = k
    · simp [ha, hk]
    · simp [ha]
  · rename_i hk
    have hnone :
        (answers.filter fun a => decide (a.questionId = k) && ((correctById questions).get a.questionId).isSome) =
        [] := by
      refine List.filter_eq_nil_iff.2 fun a _ => ?_
      simp only [Bool.and_eq_true, decide_eq_true_eq, get_correctById, Option.isSome_map]
      rintro ⟨rfl, hsome⟩
      exact hk hsome
    rw [hnone]
    rfl

theorem mem_chosenMap {questions : Table QuestionId ExamQuestion} {answers : List ExamAnswerDto}
    {c : QuestionId × Nat} :
    c ∈ (chosenMap questions answers).entries ↔
      (questions.get c.1).isSome = true ∧ lastAnswer answers c.1 = some c.2 := by
  rw [show c = (c.1, c.2) from rfl, Table.mem_entries, get_chosenMap]
  split
  · rename_i hk
    simp [hk]
  · rename_i hk
    simp [hk]

/-- The loop over `chosen` counts the questions whose last answer is right. -/
theorem countCorrect_eq (questions : Table QuestionId ExamQuestion) (answers : List ExamAnswerDto) :
    countCorrect questions (chosenMap questions answers) = right questions answers := by
  unfold countCorrect right
  rw [List.countP_eq_length_filter, List.countP_eq_length_filter]
  -- both lists have one entry for each of these questions
  have hperm : (((chosenMap questions answers).entries.filter fun c => (correctById questions).get c.1 == some c.2).map
      (·.1)).Perm ((questions.entries.filter fun q => lastAnswer answers q.1 == some q.2.correctIndex).map (·.1)) := by
    refine (List.perm_ext_iff_of_nodup ((chosenMap questions answers).nodup.sublist (List.filter_sublist.map _))
      (questions.nodup.sublist (List.filter_sublist.map _))).2 fun k => ?_
    simp only [List.mem_map, List.mem_filter, mem_chosenMap, beq_iff_eq, get_correctById]
    constructor
    · rintro ⟨⟨k', i⟩, ⟨⟨hsome, hlast⟩, hright⟩, rfl⟩
      obtain ⟨row, hrow, hi⟩ := Option.map_eq_some_iff.1 hright
      exact ⟨(k', row), ⟨Table.mem_of_get hrow, hlast.trans (congrArg some hi.symm)⟩, rfl⟩
    · rintro ⟨⟨k', row⟩, ⟨hmem, hlast⟩, rfl⟩
      have hrow := Table.get_of_mem hmem
      refine ⟨(k', row.correctIndex), ⟨⟨?_, hlast⟩, ?_⟩, rfl⟩
      · rw [hrow]
        rfl
      · rw [hrow]
        rfl
  have hlength := hperm.length_eq
  rwa [List.length_map, List.length_map] at hlength

/-! ## The model's submission -/

theorem mem_chosenOf {questions : Table QuestionId ExamQuestion} {answers : List ExamAnswerDto} {c : QuestionId × Nat} :
    c ∈ chosenOf questions.entries answers ↔
      (questions.get c.1).isSome = true ∧ lastAnswer answers c.1 = some c.2 := by
  unfold chosenOf lastAnswer
  simp only [List.mem_filterMap, Option.map_eq_some_iff, beq_eq_decide]
  constructor
  · rintro ⟨⟨k, row⟩, hmem, a, ha, rfl⟩
    refine ⟨?_, a, ha, rfl⟩
    rw [Table.get_of_mem hmem]
    rfl
  · rintro ⟨hsome, a, ha, hi⟩
    obtain ⟨row, hrow⟩ := Option.isSome_iff_exists.1 hsome
    exact ⟨(c.1, row), Table.mem_of_get hrow, a, ha, Prod.ext rfl hi⟩

theorem chosenOf_nodup (questions : Table QuestionId ExamQuestion) (answers : List ExamAnswerDto) :
    (chosenOf questions.entries answers).Nodup := by
  unfold chosenOf
  refine List.Nodup.of_map (·.1) ?_
  refine questions.nodup.sublist ?_
  generalize questions.entries = qs
  induction qs with
  | nil => simp
  | cons q qs ih =>
    rw [List.filterMap_cons]
    cases (answers.filter (·.questionId == q.1)).getLast? with
    | none => exact ih.cons _
    | some a => exact ih.cons_cons _

theorem chosenOf_perm (questions : Table QuestionId ExamQuestion) (answers : List ExamAnswerDto) :
    (chosenOf questions.entries answers).Perm (chosenMap questions answers).entries :=
  (List.perm_ext_iff_of_nodup (chosenOf_nodup questions answers) (chosenMap questions answers).entries_nodup).2
    fun _ => mem_chosenOf.trans mem_chosenMap.symm

theorem correctOf_eq (questions : Table QuestionId ExamQuestion) (answers : List ExamAnswerDto) :
    correctOf questions.entries (chosenOf questions.entries answers) = right questions answers := by
  unfold correctOf right
  refine List.countP_congr fun q hq => ?_
  have hsome : (questions.get q.1).isSome = true := by
    rw [Table.get_of_mem hq]
    rfl
  rw [List.contains_iff_mem, mem_chosenOf, beq_iff_eq]
  simp [hsome]

def State.questionTable (s : State) (examId : ExamId) : Table QuestionId ExamQuestion :=
  s.questions.filter fun _ q => q.examId == examId

/-- An open attempt of the student is graded with the percentage in doubles. -/
theorem act_grade {s : State} {user : JwtPayload} {attemptId : AttemptId} {row : ExamAttempt} {exam : Exam}
    (hrow : s.attempts.get attemptId = some row) (hexam : s.exams.get row.examId = some exam)
    (howner : row.studentId = user.sub) (hopen : row.submittedAt = none) (answers : List ExamAnswerDto) (now : Nat) :
    ∃ chosen, act s now (.attempt user attemptId answers) = (s, .next (.transaction attemptId chosen
        (grade percent (s.questionTable row.examId) answers (expired row.startedAt exam.durationMinutes now)).score
        now)) ∧
      chosen.Perm
        (grade percent (s.questionTable row.examId) answers
          (expired row.startedAt exam.durationMinutes now)).answers := by
  have hquestions : s.questionsOf row.examId = (s.questionTable row.examId).entries := rfl
  simp only [act, hrow, hexam, howner, hopen, hquestions, grade]
  cases expired row.startedAt exam.durationMinutes now with
  | true => exact ⟨[], by simp, List.Perm.refl _⟩
  | false =>
    refine ⟨chosenOf (s.questionTable row.examId).entries answers, ?_, chosenOf_perm _ _⟩
    rw [correctOf_eq, countCorrect_eq]
    simp

/-! ## Rounding -/

/-- A percentage is at least `n` from half a percent below it on. -/
theorem le_exactPercent {total : Nat} (h : 0 < total) (correct : Nat) (n : Int) :
    n ≤ exactPercent correct total ↔ (2 * n - 1) * total ≤ 200 * correct := by
  have htotal : (0 : Rat) < total := Nat.cast_pos.2 h
  have hcancel : ((correct : Rat) / total * 100 + 1 / 2) * total = correct * 100 + total / 2 := by
    field_simp
  have hscaled : (n : Rat) ≤ (correct : Rat) / total * 100 + 1 / 2 ↔ ((2 * n - 1) * total : Rat) ≤ 200 * correct := by
    rw [← mul_le_mul_iff_left₀ htotal, hcancel]
    constructor
    · intro hle
      linarith
    · intro hle
      linarith
  unfold exactPercent
  rw [if_neg (by omega), Rat.le_floor_iff, hscaled]
  constructor
  · intro hle
    exact_mod_cast hle
  · intro hle
    exact_mod_cast hle

theorem exactPercent_hundred {correct total : Nat} (h : 0 < total) (hle : correct ≤ total) :
    exactPercent correct total = 100 ↔ 199 * total ≤ 200 * correct := by
  have h100 := le_exactPercent h correct 100
  have h101 := le_exactPercent h correct 101
  omega

theorem exactPercent_zero {total : Nat} (h : 0 < total) (correct : Nat) :
    exactPercent correct total = 0 ↔ 200 * correct < total := by
  have h0 := le_exactPercent h correct 0
  have h1 := le_exactPercent h correct 1
  omega

theorem exactPercent_mono {correct correct' total : Nat} (h : 0 < total) (hle : correct ≤ correct') :
    exactPercent correct total ≤ exactPercent correct' total := by
  have hself := (le_exactPercent h correct _).1 le_rfl
  exact (le_exactPercent h correct' _).2 (by omega)

/-! ## What the score says -/

theorem right_le (questions : Table QuestionId ExamQuestion) (answers : List ExamAnswerDto) :
    right questions answers ≤ questions.entries.length := List.countP_le_length

theorem right_eq_length {questions : Table QuestionId ExamQuestion} {answers : List ExamAnswerDto} :
    right questions answers = questions.entries.length ↔
      ∀ k row, questions.get k = some row → lastAnswer answers k = some row.correctIndex := by
  unfold right
  rw [List.countP_eq_length]
  constructor
  · intro hall k row hrow
    exact beq_iff_eq.1 (hall (k, row) (Table.mem_of_get hrow))
  · rintro hall ⟨k, row⟩ hmem
    exact beq_iff_eq.2 (hall k row (Table.get_of_mem hmem))

theorem right_eq_zero {questions : Table QuestionId ExamQuestion} {answers : List ExamAnswerDto} :
    right questions answers = 0 ↔
      ∀ k row, questions.get k = some row → lastAnswer answers k ≠ some row.correctIndex := by
  unfold right
  rw [List.countP_eq_zero]
  constructor
  · intro hnone k row hrow hright
    exact hnone (k, row) (Table.mem_of_get hrow) (beq_iff_eq.2 hright)
  · rintro hnone ⟨k, row⟩ hmem hright
    exact hnone k row (Table.get_of_mem hmem) (beq_iff_eq.1 hright)

/-- A question that is answered right in the one submission is so in the other. -/
def RightToo (questions : Table QuestionId ExamQuestion) (answers answers' : List ExamAnswerDto) : Prop :=
  ∀ k row, questions.get k = some row → lastAnswer answers k = some row.correctIndex →
    lastAnswer answers' k = some row.correctIndex

theorem RightToo.le {questions : Table QuestionId ExamQuestion} {answers answers' : List ExamAnswerDto}
    (h : RightToo questions answers answers') : right questions answers ≤ right questions answers' :=
  List.countP_mono_left fun q hq hright =>
    beq_iff_eq.2 (h q.1 q.2 (Table.get_of_mem hq) (beq_iff_eq.1 hright))

theorem lastAnswer_append (answers : List ExamAnswerDto) (a : ExamAnswerDto) (k : QuestionId) :
    lastAnswer (answers ++ [a]) k = if a.questionId = k then some a.chosenIndex else lastAnswer answers k := by
  unfold lastAnswer
  rw [List.filter_append]
  by_cases ha : a.questionId = k
  · rw [if_pos ha, List.filter_cons_of_pos (by simpa using ha)]
    simp
  · rw [if_neg ha, List.filter_cons_of_neg (by simpa using ha)]
    simp

/-- One more right answer at the end. -/
theorem rightToo_append {questions : Table QuestionId ExamQuestion} {a : ExamAnswerDto} {row : ExamQuestion}
    (hrow : questions.get a.questionId = some row) (ha : a.chosenIndex = row.correctIndex)
    (answers : List ExamAnswerDto) : RightToo questions answers (answers ++ [a]) := by
  intro k row' hrow' hright
  rw [lastAnswer_append]
  split
  · rename_i hk
    subst hk
    rw [hrow] at hrow'
    cases hrow'
    rw [ha]
  · exact hright

/-- What a submission says of the answers it is made from. -/
structure Faithful (questions : Table QuestionId ExamQuestion) (answers : List ExamAnswerDto) (expired : Bool) :
    Prop where
  bounds : 0 ≤ (grade exactPercent questions answers expired).score ∧
    (grade exactPercent questions answers expired).score ≤ 100
  hundred : (grade exactPercent questions answers expired).score = 100 ↔
    expired = false ∧ 199 * questions.entries.length ≤ 200 * right questions answers
  zero : (grade exactPercent questions answers expired).score = 0 ↔
    expired = true ∨ 200 * right questions answers < questions.entries.length
  /-- With fewer than 200 questions both extremes are exact. -/
  all : questions.entries.length < 200 → ((grade exactPercent questions answers expired).score = 100 ↔
    expired = false ∧ ∀ k row, questions.get k = some row → lastAnswer answers k = some row.correctIndex)
  none : questions.entries.length ≤ 200 → ((grade exactPercent questions answers expired).score = 0 ↔
    expired = true ∨ ∀ k row, questions.get k = some row → lastAnswer answers k ≠ some row.correctIndex)
  mono : ∀ answers', RightToo questions answers answers' →
    (grade exactPercent questions answers expired).score ≤ (grade exactPercent questions answers' expired).score
  more : ∀ a row, questions.get a.questionId = some row → a.chosenIndex = row.correctIndex →
    (grade exactPercent questions answers expired).score ≤
      (grade exactPercent questions (answers ++ [a]) expired).score
  known : grade exactPercent questions (answers.filter fun a => (questions.get a.questionId).isSome) expired =
    grade exactPercent questions answers expired
  stored : ∀ k i, (k, i) ∈ (grade exactPercent questions answers expired).answers ↔
    expired = false ∧ (questions.get k).isSome = true ∧ lastAnswer answers k = some i
  once : ((grade exactPercent questions answers expired).answers.map (·.1)).Nodup

theorem grade_score (questions : Table QuestionId ExamQuestion) (answers : List ExamAnswerDto) (expired : Bool) :
    (grade exactPercent questions answers expired).score =
      if expired then 0 else exactPercent (right questions answers) questions.entries.length := by
  cases expired with
  | true => rfl
  | false => exact congrArg (exactPercent · _) (countCorrect_eq questions answers)

theorem grade_score_mono {questions : Table QuestionId ExamQuestion} (h : 0 < questions.entries.length)
    {answers answers' : List ExamAnswerDto} (hright : RightToo questions answers answers') (expired : Bool) :
    (grade exactPercent questions answers expired).score ≤ (grade exactPercent questions answers' expired).score := by
  rw [grade_score, grade_score]
  cases expired with
  | true => exact le_rfl
  | false => exact exactPercent_mono h hright.le

/-- Answers to questions that are not the exam's play no part. -/
theorem grade_known (percent : Nat → Nat → Int) (questions : Table QuestionId ExamQuestion)
    (answers : List ExamAnswerDto) (expired : Bool) :
    grade percent questions (answers.filter fun a => (questions.get a.questionId).isSome) expired =
      grade percent questions answers expired := by
  have hchosen : chosenMap questions (answers.filter fun a => (questions.get a.questionId).isSome) =
      chosenMap questions answers := by
    unfold chosenMap
    rw [List.filter_filter]
    congr 1
    refine List.filter_congr fun a _ => ?_
    simp
  unfold grade
  rw [hchosen]

theorem mem_grade_answers {percent : Nat → Nat → Int} {questions : Table QuestionId ExamQuestion}
    {answers : List ExamAnswerDto} {expired : Bool} {k : QuestionId} {i : Nat} :
    (k, i) ∈ (grade percent questions answers expired).answers ↔
      expired = false ∧ (questions.get k).isSome = true ∧ lastAnswer answers k = some i := by
  unfold grade
  cases expired with
  | true => simp
  | false =>
    simp only [Bool.false_eq_true, if_false, true_and]
    exact mem_chosenMap

theorem grade_answers_nodup (percent : Nat → Nat → Int) (questions : Table QuestionId ExamQuestion)
    (answers : List ExamAnswerDto) (expired : Bool) :
    ((grade percent questions answers expired).answers.map (·.1)).Nodup := by
  unfold grade
  cases expired with
  | true => simp
  | false => exact (chosenMap questions answers).nodup

theorem score_faithful {questions : Table QuestionId ExamQuestion} (h : questions.entries ≠ [])
    (answers : List ExamAnswerDto) (startedAt durationMinutes now : Nat) :
    Faithful questions answers (expired startedAt durationMinutes now) := by
  have hsome : 0 < questions.entries.length := List.length_pos_iff.2 h
  have hle := right_le questions answers
  have hhundred := exactPercent_hundred hsome hle
  have hzero := exactPercent_zero hsome (right questions answers)
  have h0 := le_exactPercent hsome (right questions answers) 0
  have h101 := le_exactPercent hsome (right questions answers) 101
  generalize expired startedAt durationMinutes now = late
  refine ⟨?_, ?_, ?_, ?_, ?_, fun _ hright => grade_score_mono hsome hright late, ?_,
    grade_known exactPercent questions answers late, fun _ _ => mem_grade_answers,
    grade_answers_nodup exactPercent questions answers late⟩
  · rw [grade_score]
    cases late with
    | true => simp
    | false =>
      simp only [Bool.false_eq_true, if_false]
      omega
  · rw [grade_score]
    cases late with
    | true => simp
    | false => simpa using hhundred
  · rw [grade_score]
    cases late with
    | true => simp
    | false => simpa using hzero
  · -- below 200 questions one wrong answer is more than half a percent
    intro hfew
    rw [grade_score, ← right_eq_length]
    cases late with
    | true => simp
    | false =>
      simp only [Bool.false_eq_true, if_false, true_and]
      omega
  · intro hfew
    rw [grade_score, ← right_eq_zero]
    cases late with
    | true => simp
    | false =>
      simp only [Bool.false_eq_true, if_false, false_or]
      omega
  · intro a row hrow ha
    exact grade_score_mono hsome (rightToo_append hrow ha answers) late

namespace Example

/-- An exam of `n` questions, and the right answers to the first `m` of them. -/
def sums (n : Nat) : Table QuestionId ExamQuestion where
  entries := (List.range n).map fun i => (i, ⟨"exam", "1 + 1", ["1", "2"], 1, none, i⟩)
  nodup := by
    rw [List.map_map]
    exact (List.map_id (List.range n)).symm ▸ List.nodup_range

def rightUpTo (m : Nat) : List ExamAnswerDto := (List.range m).map fun i => ⟨i, 1⟩

theorem lastAnswer_rightUpTo (m k : Nat) : lastAnswer (rightUpTo m) k = if k < m then some 1 else none := by
  induction m with
  | zero => rfl
  | succ m ih =>
    have hlast : rightUpTo (m + 1) = rightUpTo m ++ [⟨m, 1⟩] := by
      unfold rightUpTo
      rw [List.range_succ, List.map_append]
      rfl
    rw [hlast, lastAnswer_append, ih]
    dsimp only
    rcases Nat.lt_trichotomy k m with hk | rfl | hk
    · rw [if_neg (Nat.ne_of_gt hk), if_pos hk, if_pos (by omega)]
    · rw [if_pos rfl, if_pos (by omega)]
    · rw [if_neg (Nat.ne_of_lt hk), if_neg (by omega), if_neg (by omega)]

end Example

open Example in
theorem three_graded : (grade exactPercent (sums 3) ([⟨0, 0⟩, ⟨7, 1⟩] ++ rightUpTo 3) (expired 0 60 3600000)).score =
    100 := by
  have hfaithful := @score_faithful (sums 3) (by decide) ([⟨0, 0⟩, ⟨7, 1⟩] ++ rightUpTo 3) 0 60 3600000
  exact hfaithful.hundred.2 (by decide)

open Example in
theorem one_open_of_two_hundred : (sums 200).entries.length = 200 ∧ expired 0 60 3600000 = false ∧
    ((sums 200).get 199).isSome = true ∧ lastAnswer (rightUpTo 199) 199 = none ∧
    (grade exactPercent (sums 200) (rightUpTo 199) (expired 0 60 3600000)).score = 100 := by
  have hlength : (sums 200).entries.length = 200 := by decide +kernel
  have hright : right (sums 200) (rightUpTo 199) = 199 := by
    unfold right
    simp only [lastAnswer_rightUpTo]
    decide +kernel
  have hopen : expired 0 60 3600000 = false := by decide
  refine ⟨hlength, hopen, by decide +kernel, lastAnswer_rightUpTo 199 199, ?_⟩
  rw [grade_score, hopen, hright, hlength]
  decide +kernel

end Livetich.Exams
