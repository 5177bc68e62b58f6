/-
The questions of an exam once someone has begun, and updates that fail: while there is an attempt at an exam its
questions and their answer key stay as they are, and an update that fails has changed nothing.
-/
import Livetich.Exams.Sitting

namespace Livetich.Exams

open TransSys Livetich.Lib

/-- The questions of every exam with an attempt are the same in both states. -/
def KeyKept (s t : State) : Prop :=
  ∀ examId, s.attempted examId = true → t.attempted examId = true ∧ t.questionsOf examId = s.questionsOf examId

/-- A call that failed has changed no title, duration or question. -/
def AllOrNothing (s : State) : Prop := ∀ i ∈ s.failed, i ∉ s.wrote

/-- No update deletes or creates questions of an exam that someone has begun, and the last database call of an update
does not fail once the update has deleted questions. -/
def unhurried (s : State) : Event → Bool
  | .resume i _ => match s.calls.get i with
    | some (.deleteMany examId _) => !s.attempted examId
    | some (.update examId dto) => dto.questions.isNone || !s.attempted examId
    | _ => true
  | .fail i => match s.calls.get i with
    | some (.update _ _) => !s.wrote.contains i
    | _ => true
  | _ => true

theorem KeyKept.refl (s : State) : KeyKept s s := fun _ h => ⟨h, rfl⟩

theorem KeyKept.trans (s t u : State) (h : KeyKept s t) (h' : KeyKept t u) : KeyKept s u := by
  intro examId hattempted
  obtain ⟨ht, hquestions⟩ := h examId hattempted
  obtain ⟨hu, hquestions'⟩ := h' examId ht
  exact ⟨hu, hquestions'.trans hquestions⟩

/-! ## Exams that are attempted -/

theorem attempted_iff {s : State} {examId : ExamId} :
    s.attempted examId = true ↔ ∃ a row, s.attempts.get a = some row ∧ row.examId = examId := by
  unfold State.attempted
  rw [List.any_eq_true]
  constructor
  · rintro ⟨⟨a, row⟩, hrow, hexam⟩
    exact ⟨a, row, Table.get_of_mem hrow, beq_iff_eq.1 hexam⟩
  · rintro ⟨a, row, hrow, hexam⟩
    exact ⟨(a, row), Table.mem_of_get hrow, beq_iff_eq.2 hexam⟩

/-- Questions that are added belong to the one exam. -/
theorem addQuestions_others {examId other : ExamId} (h : other ≠ examId) :
    ∀ (qs : List ExamQuestionDto) (t : Table QuestionId ExamQuestion) (id order : Nat),
      (addQuestions examId t id order qs).entries.filter (·.2.examId == other) =
        t.entries.filter (·.2.examId == other)
  | [], _, _, _ => rfl
  | q :: qs, t, id, order => by
    rw [addQuestions, addQuestions_others h qs]
    cases hid : t.get id with
    | some r =>
      unfold Table.insert
      rw [dif_pos (Table.mem_keys.2 ⟨r, hid⟩)]
    | none =>
      rw [Table.entries_insert hid, List.filter_append]
      simp [Ne.symm h]

theorem questionsOf_deleteQuestions {s s' : State} {examId other : ExamId} (h : s.deleteQuestions examId = some s')
    (hother : other ≠ examId) : s'.questionsOf other = s.questionsOf other := by
  unfold State.deleteQuestions at h
  split at h
  · cases h
  · cases h
    unfold State.questionsOf Table.filter
    simp only
    rw [List.filter_filter]
    refine List.filter_congr fun q _ => ?_
    by_cases hq : q.2.examId = other
    · simp [hq, hother]
    · simp [hq]

/-! ## What a run keeps -/

/-- Attempts are at exams that are there; only a call at its last step has changed anything; the calls that failed are
over. -/
structure Orderly (s : State) : Prop where
  exams : ∀ a row, s.attempts.get a = some row → (s.exams.get row.examId).isSome = true
  running : ∀ i t, s.calls.get i = some t → i < s.nextCall ∧ i ∉ s.failed
  failed : ∀ i ∈ s.failed, i < s.nextCall
  wrote : ∀ i ∈ s.wrote, i < s.nextCall
  last : ∀ i t, s.calls.get i = some t → i ∈ s.wrote → ∃ examId dto, t = .update examId dto
  nothing : AllOrNothing s

theorem orderly_init (access : Access) : Orderly (init access) := by
  constructor
  · intro a row hrow
    cases hrow
  · intro i t ht
    cases ht
  · intro i hi
    cases hi
  · intro i hi
    cases hi
  · intro i t ht
    cases ht
  · intro i hi
    cases hi

/-- A call that begins has a number of its own. -/
theorem Orderly.begin {s : State} (hs : Orderly s) {t : Task} : Orderly (s.begin t) := by
  have hget : ∀ i u, (s.begin t).calls.get i = some u → (i = s.nextCall ∧ i ∉ s.failed ∧ i ∉ s.wrote) ∨
      s.calls.get i = some u := by
    intro i u hu
    rcases Pool.get_put_cases hu with ⟨rfl, -⟩ | ⟨-, hu⟩
    · exact .inl ⟨rfl, fun h => absurd (hs.failed _ h) (lt_irrefl _), fun h => absurd (hs.wrote _ h) (lt_irrefl _)⟩
    · exact .inr hu
  refine ⟨hs.exams, fun i u hu => ?_, fun i hi => (hs.failed i hi).trans (Nat.lt_succ_self _),
    fun i hi => (hs.wrote i hi).trans (Nat.lt_succ_self _), fun i u hu hi => ?_, hs.nothing⟩
  · rcases hget i u hu with ⟨rfl, hfailed, -⟩ | hu
    · exact ⟨Nat.lt_succ_self _, hfailed⟩
    · exact ⟨(hs.running i u hu).1.trans (Nat.lt_succ_self _), (hs.running i u hu).2⟩
  · rcases hget i u hu with ⟨-, -, hwrote⟩ | hu
    · exact absurd hi hwrote
    · exact hs.last i u hu hi

/-- A database call is answered: a call that fails has changed nothing, now or before, and one that goes on after a
change is at its last step. -/
theorem Orderly.settle {s : State} (hs : Orderly s) {i : Nat} {t : Task} (ht : s.calls.get i = some t)
    {r : State × After} (hcalls : r.1.calls = s.calls) (hnext : r.1.nextCall = s.nextCall)
    (hexams : ∀ a row, r.1.attempts.get a = some row → (r.1.exams.get row.examId).isSome = true)
    (hfail : r.2 = .failed → i ∉ s.wrote ∧ r.1.contents = s.contents)
    (hgo : ∀ u, r.2 = .next u → i ∉ s.wrote ∧ (r.1.contents = s.contents ∨ ∃ examId dto, u = .update examId dto)) :
    Orderly (s.settle i r) := by
  have hi := hs.running i t ht
  have hget : ∀ j u, (s.settle i r).calls.get j = some u →
      (j = i ∧ r.2 = .next u) ∨ (j ≠ i ∧ s.calls.get j = some u) := by
    intro j u hu
    rcases Pool.get_put_cases hu with ⟨rfl, hafter⟩ | ⟨hj, hold⟩
    · left
      refine ⟨rfl, ?_⟩
      cases hr : r.2 with
      | next v =>
        rw [hr] at hafter
        exact congrArg After.next (Option.some.inj hafter)
      | done => rw [hr] at hafter; cases hafter
      | failed => rw [hr] at hafter; cases hafter
    · rw [hcalls] at hold
      exact .inr ⟨hj, hold⟩
  have hfailed : ∀ j ∈ (s.settle i r).failed, j ∈ s.failed ∨ (j = i ∧ r.2 = .failed) := by
    intro j hj
    unfold State.settle at hj
    simp only at hj
    split at hj
    · rename_i hr
      rcases List.mem_cons.1 hj with rfl | hj
      · exact .inr ⟨rfl, hr⟩
      · exact .inl hj
    · exact .inl hj
  have hwrote : ∀ j ∈ (s.settle i r).wrote, j ∈ s.wrote ∨ (j = i ∧ r.1.contents ≠ s.contents) := by
    intro j hj
    unfold State.settle at hj
    simp only at hj
    split at hj
    · exact .inl hj
    · rename_i hr
      rcases List.mem_cons.1 hj with rfl | hj
      · exact .inr ⟨rfl, hr⟩
      · exact .inl hj
  have hnext' : (s.settle i r).nextCall = s.nextCall := hnext
  refine ⟨hexams, fun j u hu => ?_, fun j hj => ?_, fun j hj => ?_, fun j u hu hj => ?_, fun j hj hj' => ?_⟩
  · rw [hnext']
    rcases hget j u hu with ⟨rfl, hr⟩ | ⟨hji, hu⟩
    · refine ⟨hi.1, fun hj => ?_⟩
      rcases hfailed j hj with hj | ⟨-, hr'⟩
      · exact hi.2 hj
      · rw [hr] at hr'
        cases hr'
    · refine ⟨(hs.running j u hu).1, fun hj => ?_⟩
      rcases hfailed j hj with hj | ⟨rfl, -⟩
      · exact (hs.running j u hu).2 hj
      · exact hji rfl
  · rw [hnext']
    rcases hfailed j hj with hj | ⟨rfl, -⟩
    · exact hs.failed j hj
    · exact hi.1
  · rw [hnext']
    rcases hwrote j hj with hj | ⟨rfl, -⟩
    · exact hs.wrote j hj
    · exact hi.1
  · rcases hget j u hu with ⟨rfl, hr⟩ | ⟨hji, hu⟩
    · rcases hwrote j hj with hj | ⟨-, hne⟩
      · exact absurd hj (hgo u hr).1
      · exact (hgo u hr).2.resolve_left hne
    · rcases hwrote j hj with hj | ⟨rfl, -⟩
      · exact hs.last j u hu hj
      · exact absurd rfl hji
  · rcases hfailed j hj with hbefore | ⟨rfl, hr⟩
    · rcases hwrote j hj' with hwritten | ⟨rfl, -⟩
      · exact hs.nothing j hbefore hwritten
      · exact hi.2 hbefore
    · rcases hwrote j hj' with hwritten | ⟨-, hne⟩
      · exact (hfail hr).1 hwritten
      · exact hne (hfail hr).2

theorem isSome_modify {t : Table ExamId Exam} {examId : ExamId} (k : ExamId) (f : Exam → Exam)
    (h : (t.get examId).isSome = true) : ((t.modify k f).get examId).isSome = true := by
  rw [Table.get_modify]
  split
  · rw [Option.isSome_map, h]
  · exact h

/-- One database call of a call that is running. -/
theorem Orderly.act {s : State} (hs : Orderly s) {i now : Nat} {t : Task} (ht : s.calls.get i = some t) :
    Orderly (s.settle i (act s now t)) := by
  have hfresh : (∀ examId dto, t ≠ .update examId dto) → i ∉ s.wrote := by
    intro hne hi
    obtain ⟨examId, dto, rfl⟩ := hs.last i t ht hi
    exact hne examId dto rfl
  rcases act_rows s now t with hsame | ⟨user, examId, rfl, hexam, hact⟩ |
    ⟨attemptId, chosen, score, submittedAt, rfl, hsubmit⟩ | ⟨examId, dto, rfl, hdelete⟩ | ⟨examId, dto, rfl, hact⟩
  · by_cases hupdate : ∃ examId dto, t = .update examId dto
    · obtain ⟨examId, dto, rfl⟩ := hupdate
      refine hs.settle ht (by rw [hsame]) (by rw [hsame]) (by rw [hsame]; exact hs.exams) ?_ ?_
      · rintro ⟨⟩
      · rintro u ⟨⟩
    · have hi := hfresh fun examId dto h => hupdate ⟨examId, dto, h⟩
      exact hs.settle ht (by rw [hsame]) (by rw [hsame]) (by rw [hsame]; exact hs.exams)
        (fun _ => ⟨hi, by rw [hsame]⟩) fun u _ => ⟨hi, .inl (by rw [hsame])⟩
  · have hi := hfresh fun _ _ => Task.noConfusion
    refine hs.settle ht (by rw [hact]) (by rw [hact]) ?_ (fun _ => ⟨hi, by rw [hact]; rfl⟩)
      fun u _ => ⟨hi, .inl (by rw [hact]; rfl)⟩
    intro a row hrow
    rw [hact] at hrow ⊢
    cases hnext : s.attempts.get s.nextId with
    | some q =>
      have hinsert : s.attempts.insert s.nextId ⟨examId, user.sub, now, none, none⟩ = s.attempts := by
        unfold Table.insert
        rw [dif_pos (Table.mem_keys.2 ⟨q, hnext⟩)]
      refine hs.exams a row ?_
      rw [← hinsert]
      exact hrow
    | none =>
      rw [Table.get_insert hnext] at hrow
      split at hrow
      · cases hrow
        exact hexam
      · exact hs.exams a row hrow
  · have hi := hfresh fun _ _ => Task.noConfusion
    obtain ⟨hexams, hquestions, hattempts⟩ := submit_rows hsubmit
    have hcontents : (Exams.act s now (.transaction attemptId chosen score submittedAt)).1.contents = s.contents := by
      unfold State.contents
      rw [hexams, hquestions]
    obtain ⟨hcalls, hnext⟩ := submit_calls hsubmit
    refine hs.settle ht hcalls hnext ?_ (fun _ => ⟨hi, hcontents⟩) fun u _ => ⟨hi, .inl hcontents⟩
    intro a row hrow
    rw [hattempts, Table.get_modify] at hrow
    rw [hexams]
    split at hrow
    · obtain ⟨r, hr, rfl⟩ := Option.map_eq_some_iff.1 hrow
      exact hs.exams a r hr
    · exact hs.exams a row hrow
  · have hi := hfresh fun _ _ => Task.noConfusion
    have hafter : (Exams.act s now (.deleteMany examId dto)).2 = .next (.update examId dto) := by
      simp only [Exams.act] at hdelete ⊢
      cases hd : s.deleteQuestions examId with
      | none => rw [hd] at hdelete; cases hdelete
      | some s' => rfl
    obtain ⟨hexams, hattempts, -⟩ := deleteQuestions_rows hdelete
    obtain ⟨hcalls, hnext⟩ := deleteQuestions_calls hdelete
    refine hs.settle ht hcalls hnext ?_ (fun h => ?_) fun u hu => ⟨hi, .inr ⟨examId, dto, ?_⟩⟩
    · rw [hexams, hattempts]
      exact hs.exams
    · rw [hafter] at h
      cases h
    · rw [hafter] at hu
      cases hu
      rfl
  · refine hs.settle ht (by rw [hact]; rfl) (by rw [hact]; rfl) ?_ ?_ ?_
    · intro a row hrow
      rw [hact] at hrow ⊢
      exact isSome_modify _ _ (hs.exams a row hrow)
    · rintro ⟨⟩
    · rintro u ⟨⟩

theorem orderly_step {s s' : State} {e : Event} (hs : Orderly s) (hok : unhurried s e = true)
    (h : step s e = some s') : Orderly s' := by
  cases e with
  | createExam examId exam questions =>
    rw [step] at h
    split at h
    · cases h
    · cases h
      refine ⟨fun a row hrow => ?_, hs.running, hs.failed, hs.wrote, hs.last, hs.nothing⟩
      obtain ⟨e, he⟩ := Option.isSome_iff_exists.1 (hs.exams a row hrow)
      show ((s.exams.insert examId exam).get row.examId).isSome = true
      rw [Table.get_insert_of_some he]
      rfl
  | startAttempt user examId => cases h; exact hs.begin
  | submit user attemptId answers => cases h; exact hs.begin
  | updateExam user courseId examId dto => cases h; exact hs.begin
  | change access => cases h; exact ⟨hs.exams, hs.running, hs.failed, hs.wrote, hs.last, hs.nothing⟩
  | resume i now =>
    obtain ⟨t, ht, rfl⟩ := Option.map_eq_some_iff.1 h
    exact hs.act ht
  | fail i =>
    obtain ⟨t, ht, rfl⟩ := Option.map_eq_some_iff.1 h
    refine hs.settle ht rfl rfl hs.exams (fun _ => ⟨fun hi => ?_, rfl⟩) fun u hu => by cases hu
    -- a call that has changed something is at its last step, which does not fail
    obtain ⟨examId, dto, rfl⟩ := hs.last i t ht hi
    simp only [unhurried, ht, Bool.not_eq_true', List.contains_eq_mem, decide_eq_false_iff_not] at hok
    exact hok hi

/-! ## The answer key -/

theorem keyKept_of {s s' : State} (hattempts : ∀ a row, s.attempts.get a = some row →
      ∃ row', s'.attempts.get a = some row' ∧ row'.examId = row.examId)
    (hquestions : ∀ examId, s.attempted examId = true → s'.questionsOf examId = s.questionsOf examId) :
    KeyKept s s' := by
  intro examId hattempted
  refine ⟨?_, hquestions examId hattempted⟩
  obtain ⟨a, row, hrow, hexam⟩ := attempted_iff.1 hattempted
  obtain ⟨row', hrow', hexam'⟩ := hattempts a row hrow
  exact attempted_iff.2 ⟨a, row', hrow', hexam'.trans hexam⟩

theorem keyKept_step {s s' : State} {e : Event} (hs : Orderly s) (hok : unhurried s e = true)
    (h : step s e = some s') : KeyKept s s' := by
  have hsame : ∀ a row, s.attempts.get a = some row → ∃ row', s.attempts.get a = some row' ∧ row'.examId = row.examId :=
    fun a row hrow => ⟨row, hrow, rfl⟩
  cases e with
  | createExam examId exam questions =>
    rw [step] at h
    split at h
    · cases h
    · rename_i hnew
      cases h
      refine keyKept_of hsame fun other hother => ?_
      obtain ⟨a, row, hrow, rfl⟩ := attempted_iff.1 hother
      refine addQuestions_others ?_ questions s.questions s.nextId 0
      rintro rfl
      exact hnew (hs.exams a row hrow)
  | startAttempt user examId => cases h; exact KeyKept.refl s
  | submit user attemptId answers => cases h; exact KeyKept.refl s
  | updateExam user courseId examId dto => cases h; exact KeyKept.refl s
  | change access => cases h; exact KeyKept.refl s
  | fail i =>
    obtain ⟨t, ht, rfl⟩ := Option.map_eq_some_iff.1 h
    exact KeyKept.refl s
  | resume i now =>
    obtain ⟨t, ht, rfl⟩ := Option.map_eq_some_iff.1 h
    show KeyKept s (act s now t).1
    rcases act_rows s now t with hact | ⟨user, examId, rfl, -, hact⟩ |
      ⟨attemptId, chosen, score, submittedAt, rfl, hsubmit⟩ | ⟨examId, dto, rfl, hdelete⟩ | ⟨examId, dto, rfl, hact⟩
    · rw [hact]
      exact KeyKept.refl s
    · rw [hact]
      exact keyKept_of (fun a row hrow => ⟨row, Table.get_insert_of_some hrow _ _, rfl⟩) fun _ _ => rfl
    · obtain ⟨-, hquestions, hattempts⟩ := submit_rows hsubmit
      refine keyKept_of (fun a row hrow => ?_) fun examId _ => ?_
      · rw [hattempts, Table.get_modify]
        split
        · exact ⟨{ row with submittedAt := some submittedAt, score := some score }, by rw [hrow]; rfl, rfl⟩
        · exact ⟨row, hrow, rfl⟩
      · unfold State.questionsOf
        rw [hquestions]
    · have hnone : s.attempted examId = false := by
        simpa only [unhurried, ht, Bool.not_eq_true'] using hok
      obtain ⟨-, hattempts, -⟩ := deleteQuestions_rows hdelete
      refine keyKept_of (by rw [hattempts]; exact hsame) fun other hother => questionsOf_deleteQuestions hdelete ?_
      rintro rfl
      rw [hnone] at hother
      cases hother
    · rw [hact]
      refine keyKept_of hsame fun other hother => ?_
      simp only [unhurried, ht, Bool.or_eq_true, Option.isNone_iff_eq_none, Bool.not_eq_true'] at hok
      rcases hok with hnone | hnone
      · unfold State.update State.questionsOf
        rw [hnone]
        rfl
      · refine addQuestions_others ?_ _ s.questions s.nextId 0
        rintro rfl
        rw [hnone] at hother
        cases hother

namespace Example

def teacher : JwtPayload := ⟨"yusuf", .instructor, "Yusuf", none, none, none⟩

def corrected : UpdateExamDto :=
  ⟨none, none, some [⟨"1 + 1", ["2", "3"], 0, none⟩], by rintro qs ⟨⟩; exact List.cons_ne_nil _ _⟩

/-- Yusuf corrects a question, and then Amina starts. -/
def correctsFirst : List Event :=
  opened ++ [.updateExam teacher "c" "exam" corrected] ++ List.replicate 4 (.resume 0 0) ++
    [.startAttempt student "exam"] ++ List.replicate 5 (.resume 1 0)

def correctsAgain : List Event := [.updateExam teacher "c" "exam" corrected, .resume 2 1, .resume 2 1]

/-- Yusuf's update has read that nobody has begun; then Amina starts. -/
def startsMeanwhile : List Event :=
  opened ++ [.updateExam teacher "c" "exam" corrected, .resume 0 0, .resume 0 0, .startAttempt student "exam"] ++
    List.replicate 5 (.resume 1 0)

/-- The update goes on: the questions are deleted, and the call that was to create the new ones fails. -/
def failsHalfway : List Event := [.resume 0 1, .fail 0]

/-- Is the exam attempted, how many questions has it, and which calls failed having changed something? -/
def standing (s : State) : Bool × Nat × List Nat :=
  (s.attempted "exam", (s.questionsOf "exam").length, s.failed.filter s.wrote.contains)

end Example

end Livetich.Exams
