/-
The instructor's ruling is final as long as no review stands beside it: in every run in which a
ruling is written while no review of the submission can still write its status, and no review is
started of a submission that is ruled on, the status of each submission is the last ruling on it.

The three status writes of a review look at nothing: `review` sets the submission under review,
`persist` reviewed and `fail` to be reviewed, whatever stands there. A review that is on its way
beside a ruling undoes it, and so does one that is started after it.
-/
import Livetich.Coding.Review

namespace Livetich.Coding

open TransSys Lib

/-! ## The property -/

/-- The last ruling on a submission. -/
def lastRuling (rulings : List (SubmissionId × CodingSubmissionStatus)) (x : SubmissionId) :
    Option CodingSubmissionStatus :=
  (rulings.find? (·.1 == x)).map (·.2)

def status (s : State) (x : SubmissionId) : Option CodingSubmissionStatus := (s.db.submissions.get x).map (·.status)

/-- Each submission that was ruled on has the status of the last ruling. -/
def Final (s : State) : Prop := ∀ x ruling, lastRuling s.rulings x = some ruling → status s x = some ruling

/-! ## The condition -/

/-- The submission whose status a task may still write as part of a review. -/
def Task.reviews : Task → Option SubmissionId
  | .load x | .create x _ | .start x _ _ | .render x _ _ | .readText x _ _ | .callGemini x _ _
  | .persist x _ _ _ | .fail x _ _ | .refresh x (some _) | .refreshing x (some _) => some x
  | _ => none

/-- A review is started of a submission that is not ruled on, and a ruling written while no review
can still write the status. -/
def heeds (s : State) : Event → Bool
  | .enqueue _ x => (status s x).all fun st => !st.isRuling
  | .decided i _ => match s.tasks.get i with
    | some (.decide x _ _) => !s.tasks.occupied Task.reviews x
    | _ => true
  | _ => true

/-! ## The invariant -/

structure Inv (s : State) : Prop where
  final : Final s
  rulings : ∀ p ∈ s.rulings, p.2.isRuling = true
  /-- No review is on its way of a submission that is ruled on. -/
  quiet : ∀ i t x, s.tasks.get i = some t → t.reviews = some x → lastRuling s.rulings x = none

theorem isRuling_of_last {s : State} (h : Inv s) {x : SubmissionId} {ruling : CodingSubmissionStatus}
    (hx : lastRuling s.rulings x = some ruling) : ruling.isRuling = true := by
  obtain ⟨p, hp, rfl⟩ := Option.map_eq_some_iff.1 hx
  exact h.rulings p (List.mem_of_find?_eq_some hp)

namespace Inv

variable {s : State} {i : Nat} {x : SubmissionId}

/-- A task goes on in the same review, or in none. -/
theorem goto (h : Inv s) {t : Option Task}
    (ht : ∀ x, t.bind Task.reviews = some x → lastRuling s.rulings x = none) : Inv (s.goto i t) where
  final := h.final
  rulings := h.rulings
  quiet := by
    intro j u y hj hu
    rcases Pool.get_put_cases hj with ⟨-, rfl⟩ | ⟨-, hj⟩
    · exact ht y hu
    · exact h.quiet j u y hj hu

/-- The row of a submission no ruling is on changes. -/
theorem write (h : Inv s) (hx : lastRuling s.rulings x = none) {s' : State} (f : CodingSubmission → CodingSubmission)
    (hsubs : s'.db.submissions = s.db.submissions.modify x f) (hrulings : s'.rulings = s.rulings)
    (htasks : s'.tasks = s.tasks) : Inv s' where
  final := by
    intro y ruling hy
    rw [hrulings] at hy
    have hne : y ≠ x := by
      rintro rfl
      rw [hx] at hy
      cases hy
    unfold status
    rw [hsubs, Table.get_modify_of_ne _ _ hne]
    exact h.final y ruling hy
  rulings := by
    rw [hrulings]
    exact h.rulings
  quiet := by
    rw [hrulings, htasks]
    exact h.quiet

/-- Nothing changes that the invariant is about. -/
theorem frame (h : Inv s) {s' : State} (hsubs : s'.db.submissions = s.db.submissions)
    (hrulings : s'.rulings = s.rulings) (htasks : s'.tasks = s.tasks) : Inv s' where
  final := by
    intro y ruling hy
    rw [hrulings] at hy
    unfold status
    rw [hsubs]
    exact h.final y ruling hy
  rulings := by
    rw [hrulings]
    exact h.rulings
  quiet := by
    rw [hrulings, htasks]
    exact h.quiet

theorem submit (h : Inv s) (hx : s.db.submissions.get x = none) (row : CodingSubmission)
    (files : List CodingSubmissionFile) : Inv (s.submit x row files) where
  final := by
    intro y ruling hy
    have hst := h.final y ruling hy
    have hne : y ≠ x := by
      rintro rfl
      unfold status at hst
      rw [hx] at hst
      cases hst
    unfold status State.submit at *
    rw [Table.get_insert hx, if_neg hne]
    exact hst
  rulings := h.rulings
  quiet := h.quiet

theorem decide (h : Inv s) {row : CodingSubmission} (hrow : s.db.submissions.get x = some row)
    (hfree : s.tasks.occupied Task.reviews x = false) (userId : UserId) (dto : DecisionDto) (now : Int) :
    Inv (s.decide x userId dto now) where
  final := by
    intro y ruling hy
    unfold lastRuling State.decide at hy
    unfold status State.decide
    dsimp only at hy ⊢
    by_cases hne : y = x
    · subst hne
      rw [List.find?_cons_of_pos (by simp)] at hy
      cases hy
      rw [Table.get_modify_self, hrow]
      rfl
    · rw [List.find?_cons_of_neg (by simpa using Ne.symm hne)] at hy
      rw [Table.get_modify_of_ne _ _ hne]
      exact h.final y ruling hy
  rulings := by
    intro p hp
    rcases List.mem_cons.1 hp with rfl | hp
    · exact isRuling_status dto.decision
    · exact h.rulings p hp
  quiet := by
    intro j u y hj hu
    have hne : y ≠ x := by
      rintro rfl
      have hocc : s.tasks.occupied Task.reviews y = true := Pool.occupied_iff.2 ⟨j, u, hj, hu⟩
      rw [hfree] at hocc
      cases hocc
    have hy := h.quiet j u y hj hu
    unfold lastRuling State.decide at *
    rw [List.find?_cons_of_neg (by simpa using Ne.symm hne)]
    exact hy

/-- What a task goes on to when its call fails is part of the same review. -/
theorem caught (h : Inv s) {t : Task} (hi : s.tasks.get i = some t) (message : String) :
    Inv (s.goto i (t.caught message)) := by
  refine h.goto fun y hy => h.quiet i t y hi ?_
  obtain ⟨u, hu, hy⟩ := Option.bind_eq_some_iff.1 hy
  cases t with
  | refresh x r => cases r <;> cases hu; exact hy
  | refreshing x r => cases r <;> cases hu; exact hy
  | _ => cases hu <;> exact hy

theorem resume {s' : State} (h : Inv s) {t : Task} (hi : s.tasks.get i = some t)
    (hstep : Coding.resume s i t = some s') : Inv s' := by
  cases t with
  | load x =>
    cases hstep
    refine h.goto fun y hy => h.quiet i _ y hi ?_
    obtain ⟨u, hu, hy⟩ := Option.bind_eq_some_iff.1 hy
    obtain ⟨row, -, hu⟩ := Option.bind_eq_some_iff.1 hu
    obtain ⟨a, -, rfl⟩ := Option.map_eq_some_iff.1 hu
    exact hy
  | start x r requirements =>
    cases hstep
    have hx := h.quiet i _ x hi rfl
    have hw : Inv (s.setStatus x .underReview) :=
      h.write hx (fun row => { row with status := .underReview }) rfl rfl rfl
    refine hw.goto fun y hy => ?_
    obtain rfl : x = y := by split at hy <;> exact Option.some.inj hy
    exact hx
  | readText x r requirements =>
    cases hstep
    exact h.goto fun y hy => h.quiet i _ y hi hy
  | persist x r requirements out =>
    cases hstep
    have hx := h.quiet i _ x hi rfl
    have hw : Inv (s.persist x r requirements out) := h.write hx (fun row =>
      { row with provisionalScore := some out.overallScore, status := persistedStatus out }) rfl rfl rfl
    refine hw.goto fun y hy => ?_
    cases hy
    exact hx
  | fail x r message =>
    cases hstep
    have hw : Inv (s.fail x r message) :=
      h.write (h.quiet i _ x hi rfl) (fun row => { row with status := .needsReview }) rfl rfl rfl
    exact hw.goto fun y hy => by cases hy
  | refreshing x r =>
    cases hstep
    exact h.goto fun y hy => by cases hy
  | points a =>
    cases hstep
    refine h.goto fun y hy => ?_
    obtain ⟨u, hu, hy⟩ := Option.bind_eq_some_iff.1 hy
    obtain ⟨row, -, hu⟩ := Option.bind_eq_some_iff.1 hu
    obtain ⟨sessionId, -, rfl⟩ := Option.map_eq_some_iff.1 hu
    cases hy
  | board a sessionId courseId showAi =>
    cases hstep
    have hw : Inv (s.emit ⟨sessionId, a, standings s.db a courseId showAi⟩) := h.frame rfl rfl rfl
    exact hw.goto fun y hy => by cases hy
  | decideLoad x userId dto =>
    cases hstep
    refine h.goto fun y hy => ?_
    obtain ⟨u, hu, hy⟩ := Option.bind_eq_some_iff.1 hy
    obtain ⟨row, -, rfl⟩ := Option.map_eq_some_iff.1 hu
    cases hy
  | decideManage x userId dto =>
    cases hstep
    exact h.goto fun y hy => by cases hy
  | create | render | callGemini | refresh | decide => cases hstep

theorem step {s' : State} {e : Event} (h : Inv s) (hok : heeds s e = true) (hstep : Coding.step s e = some s') :
    Inv s' := by
  cases e with
  | submit x row files =>
    obtain ⟨⟨hx, -⟩, hs⟩ := Option.ite_none_right_eq_some.1 hstep
    cases hs
    exact h.submit hx row files
  | addFeedback row =>
    cases hstep
    exact h.frame rfl rfl rfl
  | enqueue i x =>
    obtain ⟨-, hs⟩ := Option.ite_none_right_eq_some.1 hstep
    cases hs
    refine h.goto fun y hy => ?_
    cases hy
    -- a last ruling on the submission would be its status
    by_contra hne
    obtain ⟨ruling, hruling⟩ := Option.ne_none_iff_exists'.1 hne
    dsimp only [heeds] at hok
    rw [h.final x ruling hruling, Option.all_some, isRuling_of_last h hruling] at hok
    cases hok
  | decide i x userId dto =>
    obtain ⟨-, hs⟩ := Option.ite_none_right_eq_some.1 hstep
    cases hs
    exact h.goto fun y hy => by cases hy
  | launch i a =>
    obtain ⟨-, hs⟩ := Option.ite_none_right_eq_some.1 hstep
    cases hs
    exact h.goto fun y hy => by cases hy
  | resume i =>
    obtain ⟨t, hi, hs⟩ := Option.bind_eq_some_iff.1 hstep
    exact h.resume hi hs
  | created i r =>
    obtain ⟨x, requirements, hi, -, rfl⟩ := step_created hstep
    have hw : Inv (s.create x r) := h.frame rfl rfl rfl
    exact hw.goto fun y hy => h.quiet i _ y hi hy
  | rendered i fromCommit =>
    obtain ⟨x, r, requirements, hi, rfl⟩ := step_rendered hstep
    refine h.goto fun y hy => h.quiet i _ y hi ?_
    split at hy <;> exact hy
  | answered i out =>
    obtain ⟨x, r, requirements, hi, rfl⟩ := step_answered hstep
    exact h.goto fun y hy => h.quiet i _ y hi hy
  | refreshed i j =>
    obtain ⟨x, r, hi, ⟨row, -, rfl⟩ | ⟨-, rfl⟩⟩ := step_refreshed hstep
    · refine Inv.goto (h.goto fun y hy => h.quiet i _ y hi ?_) fun y hy => by cases hy
      cases r <;> exact hy
    · exact h.goto fun y hy => by cases hy
  | decided i now =>
    obtain ⟨x, userId, dto, row, hi, hrow, rfl⟩ := step_decided hstep
    have hfree : s.tasks.occupied Task.reviews x = false := by
      simpa [heeds, hi] using hok
    exact Inv.goto (h.decide hrow hfree userId dto now) fun y hy => by cases hy
  | throws i message =>
    obtain ⟨t, hi, rfl⟩ := Option.map_eq_some_iff.1 hstep
    exact h.caught hi message

end Inv

theorem inv_init {assignments : Table AssignmentId CodingAssignment} {students : List Student}
    {enrollments : List Enrollment} {courses : List (CourseId × String)} {sessions : List (SessionId × SessionStatus)}
    {gemini : Bool} : Inv (init assignments students enrollments courses sessions gemini) where
  final := by
    intro x ruling hx
    cases hx
  rulings := by
    intro p hp
    cases hp
  quiet := by
    intro i t x hi
    rw [init, Pool.get_empty] at hi
    cases hi

/-! ## The theorem -/

/-- In every run that meets the condition, the status of a submission that was ruled on is that of
the last ruling. -/
theorem ruling_final (assignments : Table AssignmentId CodingAssignment) (students : List Student)
    (enrollments : List Enrollment) (courses : List (CourseId × String)) (sessions : List (SessionId × SessionStatus))
    (gemini : Bool) (es : List Event) (s : State)
    (hok : Meets step (fun s e => heeds s e = true) (init assignments students enrollments courses sessions gemini) es)
    (h : run step (init assignments students enrollments courses sessions gemini) es = some s) : Final s :=
  (run_inv (I := Inv) (fun _ _ _ h hok hstep => h.step hok hstep) inv_init hok h).final

/-! ## One task -/

theorem get_goto (s : State) (i : Nat) (t : Option Task) : (s.goto i t).tasks.get i = t := by
  rw [State.goto, Pool.get_put_self]

theorem resume_of {s : State} {i : Nat} {t : Task} (hi : s.tasks.get i = some t) : step s (.resume i) = resume s i t := by
  simp only [step, hi, Option.bind_some]

namespace Example

def assignment : CodingAssignment where
  courseId := "c"
  sessionId := some "s"
  title := "Todo API"
  description := none
  language := some "typescript"
  framework := none
  difficulty := none
  workspacePath := none
  status := .live
  dueAt := none
  maxAttempts := 3
  allowResubmit := true
  aiAutoReview := true
  showAiToStudents := false
  requirements := [⟨"q1", "Lists the todos", true⟩]
  rubric := []

def row : CodingSubmission where
  assignmentId := "a"
  studentId := "amina"
  attemptNumber := 1
  archiveUrl := none
  archiveHash := none
  workspaceId := none
  commitSha := none
  status := .submitted
  provisionalScore := none
  finalScore := none
  finalDecision := none
  reviewedById := none
  reviewedAt := none
  submittedAt := 0

/-- A class of one student and one assignment. -/
def start : State :=
  init (Lib.Table.empty.insert "a" assignment) [⟨"amina", "Amina", "amina@x.io"⟩] [⟨"c", "amina"⟩]
    [("c", "Backend")] [("s", .live)] true

def output (confidence : AiConfidence) : ReviewOutput := ⟨80, confidence, "Works.", [⟨"q1", .pass⟩], []⟩

/-- A review of `x` is task `i`, up to the answer of the AI model. -/
def ask (i : Nat) (r : ReviewId) : List Event :=
  [.enqueue i "x", .resume i, .created i r, .resume i, .rendered i true, .answered i (output .high)]

/-- The answer is stored, and the broadcasts are over; the board of the class is task `j`. -/
def store (i j : Nat) : List Event := [.resume i, .refreshed i j, .resume i, .resume j, .resume j]

def rule (i j : Nat) (decision : DecisionKind) (now : Int) : List Event :=
  [.decide i "x" "tariq" ⟨decision, none, none⟩, .resume i, .resume i, .decided i now, .refreshed i j, .resume i,
    .resume j, .resume j]

/-- A review, and two rulings after it. -/
def inTurn : List Event :=
  [.submit "x" row []] ++ ask 0 "r1" ++ store 0 1 ++ rule 0 1 .giveBack 10 ++ rule 0 1 .pass 20

/-- The ruling is made while the AI model is still asked. -/
def meanwhile : List Event := [.submit "x" row []] ++ ask 0 "r1" ++ rule 1 2 .pass 10 ++ store 0 2

/-- The review is run again after the ruling. -/
def again : List Event :=
  [.submit "x" row []] ++ rule 1 2 .fail 10 ++ [.enqueue 0 "x", .resume 0, .created 0 "r1", .resume 0]

end Example

open Example in
theorem inTurn_final :
    (run step start inTurn).map (fun s => (s.rulings, status s "x")) =
      some ([("x", .passed), ("x", .returned)], some .passed) ∧
    ∀ s, run step start inTurn = some s → Final s :=
  ⟨by decide, fun s h => ruling_final _ _ _ _ _ _ inTurn s (by decide) h⟩

open Example in
theorem ruling_undone :
    (run step start meanwhile).map (fun s => (s.rulings, status s "x")) =
      some ([("x", .passed)], some .aiReviewed) ∧
    (run step start again).map (fun s => (s.rulings, status s "x")) =
      some ([("x", .failed)], some .underReview) ∧
    ¬ ∀ (es : List Event) (s : State), run step start es = some s → Final s := by
  have hrun : (run step start meanwhile).map (fun s => (s.rulings, status s "x")) =
      some ([("x", .passed)], some .aiReviewed) := by
    decide
  refine ⟨hrun, by decide, fun h => ?_⟩
  obtain ⟨s, hs, heq⟩ := Option.map_eq_some_iff.1 hrun
  rw [Prod.mk.injEq] at heq
  have hfinal := h meanwhile s hs "x" .passed (by rw [heq.1]; rfl)
  rw [heq.2] at hfinal
  cases hfinal

end Livetich.Coding
