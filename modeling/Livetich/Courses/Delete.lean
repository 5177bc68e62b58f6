/-
Deleting a course: `CoursesService.deleteCourse`, over the tables that hang off a course and the history of its
Tajweed annotations, whose revisions no key ties to an annotation or a course.

A service writes a row with the references it has looked up within the course it writes in: the section, session and
group of an assignment, the section and session of a quiz round, the questions of an assessment's responses, the
session of an assessment or a recording, the recitation of a correction, the workspace a commit is submitted from. So
a row and what it refers to belong to one course, but for a batch, which refers to its program; a row is never handed
to another course. The statements of the transaction run in the order they stand in.
-/
import Livetich.Courses.Model
import Livetich.Courses.Schema
import Livetich.Tajweed.Model

namespace Livetich.Courses.Deletion

open Relational

/-! ## State -/

abbrev Key := CourseTable × String

/-- The columns of a row that are no references go by their names. -/
abbrev Row := Relational.Row RefColumn String (List (String × String))

abbrev Rows := Relational.Db CourseTable RefColumn String (List (String × String))

/-- The snapshot is the annotation as the change left it, or as it was when it was deleted. -/
structure Revision where
  annotationId : String
  change : Tajweed.TajweedChange
  snapshot : Row
  changedById : UserId

/-- The course the snapshot is of. -/
def Revision.courseId (r : Revision) : Option CourseId := r.snapshot.refs .tajweedAnnotationCourseId

structure State where
  rows : Rows
  revisions : List Revision

def State.empty : State := ⟨Lib.Table.empty, []⟩

/-! ## The transaction -/

/-- The course bank and the session rounds. -/
def quizWhere : List (List RefColumn) := [[.quizCourseId], [.quizSessionId, .liveSessionCourseId]]

/-- What is deleted before the history of the annotations. -/
def statementsBefore : List (Stmt CourseTable RefColumn) :=
  [⟨.codingAssignment, [[.codingAssignmentCourseId]]⟩,
   ⟨.examAnswer, [[.examAnswerAttemptId, .examAttemptExamId, .examCourseId]]⟩,
   ⟨.examAttempt, [[.examAttemptExamId, .examCourseId]]⟩,
   ⟨.examQuestion, [[.examQuestionExamId, .examCourseId]]⟩,
   ⟨.exam, [[.examCourseId]]⟩,
   ⟨.assignedRemediation, [[.assignedRemediationTaskId, .remediationTaskCourseId]]⟩,
   ⟨.assessment, [[.assessmentCourseId]]⟩,
   ⟨.remediationTask, [[.remediationTaskCourseId]]⟩,
   ⟨.assessmentQuestion, [[.assessmentQuestionCourseId]]⟩,
   ⟨.quizAnswer, quizWhere.map fun p => .quizAnswerQuestionId :: .quizQuestionQuizId :: p⟩,
   ⟨.quizQuestion, quizWhere.map fun p => .quizQuestionQuizId :: p⟩,
   ⟨.quiz, quizWhere⟩,
   ⟨.submission, [[.submissionAssignmentId, .assignmentCourseId]]⟩,
   ⟨.assignment, [[.assignmentCourseId]]⟩,
   ⟨.studentGroup, [[.studentGroupCourseId]]⟩]

/-- What is deleted after it, up to the course's own row. -/
def statementsAfter : List (Stmt CourseTable RefColumn) :=
  [⟨.tajweedAnnotations, [[.tajweedAnnotationCourseId]]⟩,
   ⟨.hifzEntry, [[.hifzEntryCourseId]]⟩,
   ⟨.hifzTarget, [[.hifzTargetCourseId]]⟩,
   ⟨.attendance, [[.attendanceSessionId, .liveSessionCourseId]]⟩,
   ⟨.chatMessage, [[.chatMessageSessionId, .liveSessionCourseId]]⟩,
   ⟨.pointsLedger, [[.pointsLedgerCourseId]]⟩,
   ⟨.certificate, [[.certificateCourseId]]⟩,
   ⟨.courseDocument, [[.courseDocumentCourseId]]⟩,
   ⟨.enrollment, [[.enrollmentCourseId]]⟩,
   ⟨.sessionReminder, [[.sessionReminderCourseId]]⟩,
   ⟨.invite, [[.inviteCourseId]]⟩,
   ⟨.courseSection, [[.sectionCourseId]]⟩,
   ⟨.liveSession, [[.liveSessionCourseId]]⟩]

/-- `tx.course.delete`, which the transaction ends with. -/
def courseStatement : Stmt CourseTable RefColumn := ⟨.course, [[]]⟩

/-- The annotations the transaction finds in the course. -/
def annotationIds (rows : Rows) (c : CourseId) : List String :=
  (rows.entries.filter fun e =>
    decide (e.1.1 = .tajweedAnnotations) && decide (e.2.refs .tajweedAnnotationCourseId = some c)).map (·.1.2)

/-- `none` when a statement violates a foreign key, or the course is not there. -/
def transaction (s : State) (c : CourseId) : Option State := do
  let rows ← execAll ownership c s.rows statementsBefore
  let tajweed := annotationIds rows c
  let revisions := s.revisions.filter fun r => decide (r.annotationId ∉ tajweed)
  let rows ← execAll ownership c rows statementsAfter
  let _ ← rows.get (.course, c)
  let rows ← execAll ownership c rows [courseStatement]
  some ⟨rows, revisions⟩

/-- The number of batches of a program. -/
def batches (rows : Rows) (c : CourseId) : Nat :=
  rows.entries.countP fun e => decide (e.2.refs .courseParentCourseId = some c)

def deleteCourse (user : JwtPayload) (courseId : CourseId) (s : State) : Result State := do
  let orgId ← orgOf user
  let course ← found (s.rows.get (.course, courseId)) (.notFound "Course not found")
  require (course.data.lookup "organizationId" = some orgId) (.notFound "Course not found")
  require (batches s.rows courseId = 0)
    (.badRequest "This program has batches. Delete its batches first, then delete the program.")
  found (transaction s courseId) .internal

/-! ## What the API does -/

inductive Event
  | create (k : Key) (row : Row)
  | update (k : Key) (row : Row)
  /-- A delete of rows other than courses and annotations, with what goes with them. -/
  | delete (keys : List Key)
  /-- `TajweedService.create`. -/
  | annotate (id : String) (row : Row) (userId : UserId)
  /-- `TajweedService.update` and `linkCorrectionsToRecitation`. -/
  | revise (id : String) (row : Row) (userId : UserId)
  /-- `TajweedService.remove`. -/
  | remove (id : String) (userId : UserId)
  | deleteCourse (user : JwtPayload) (courseId : CourseId)

/-- A row under a new key. -/
def created (rows : Rows) (k : Key) (row : Row) : Option Rows :=
  if (rows.get k).isNone && legal ownership (rows.insert k row) k row then some (rows.insert k row) else none

/-- Another row under the same key, of the same course. -/
def updated (rows : Rows) (k : Key) (row : Row) : Option Rows :=
  (rows.get k).bind fun old =>
    if sameOwner ownership k old row && legal ownership (rows.modify k fun _ => row) k row then
      some (rows.modify k fun _ => row)
    else none

def step (s : State) : Event → Option State
  | .create k row =>
    if k.1 = .tajweedAnnotations then none else (created s.rows k row).map fun rows => { s with rows := rows }
  | .update k row =>
    if k.1 = .tajweedAnnotations then none else (updated s.rows k row).map fun rows => { s with rows := rows }
  | .delete keys =>
    if keys.any fun k => decide (k.1 = .course) || decide (k.1 = .tajweedAnnotations) then none
    else (Relational.delete schema s.rows fun k => decide (k ∈ keys)).map fun rows => { s with rows := rows }
  | .annotate id row userId =>
    (created s.rows (.tajweedAnnotations, id) row).map fun rows =>
      ⟨rows, s.revisions ++ [⟨id, .created, row, userId⟩]⟩
  | .revise id row userId =>
    (updated s.rows (.tajweedAnnotations, id) row).map fun rows =>
      ⟨rows, s.revisions ++ [⟨id, .updated, row, userId⟩]⟩
  | .remove id userId =>
    (s.rows.get (.tajweedAnnotations, id)).bind fun row =>
      (Relational.delete schema s.rows fun k => decide (k = (.tajweedAnnotations, id))).map fun rows =>
        ⟨rows, s.revisions ++ [⟨id, .deleted, row, userId⟩]⟩
  | .deleteCourse user courseId => (deleteCourse user courseId s).toOption

def Reachable (s : State) : Prop := ∃ es, TransSys.run step .empty es = some s

/-! ## What every step keeps -/

section Steps

variable {s s' : State} {rows rows' : Rows} {k : Key} {row : Row} {c : CourseId} {e : Event}

theorem created_eq_some :
    created rows k row = some rows' ↔
      rows.get k = none ∧ legal ownership (rows.insert k row) k row = true ∧ rows.insert k row = rows' := by
  unfold created
  rw [Option.ite_none_right_eq_some, Bool.and_eq_true, Option.isNone_iff_eq_none, Option.some_inj, and_assoc]

theorem updated_eq_some :
    updated rows k row = some rows' ↔
      ∃ old, rows.get k = some old ∧ sameOwner ownership k old row = true ∧
        legal ownership (rows.modify k fun _ => row) k row = true ∧ (rows.modify k fun _ => row) = rows' := by
  unfold updated
  rw [Option.bind_eq_some_iff]
  refine exists_congr fun old => and_congr_right fun _ => ?_
  rw [Option.ite_none_right_eq_some, Bool.and_eq_true, Option.some_inj, and_assoc]

theorem coherent_created (h : Coherent ownership rows) (hrows : created rows k row = some rows') :
    Coherent ownership rows' := by
  obtain ⟨hk, hlegal, rfl⟩ := created_eq_some.1 hrows
  exact h.insert hk hlegal

theorem coherent_updated (h : Coherent ownership rows) (hrows : updated rows k row = some rows') :
    Coherent ownership rows' := by
  obtain ⟨old, hk, hsame, hlegal, rfl⟩ := updated_eq_some.1 hrows
  exact h.modify hk hsame hlegal

theorem transaction_eq_some :
    transaction s c = some s' ↔
      ∃ mid late course last, execAll ownership c s.rows statementsBefore = some mid ∧
        execAll ownership c mid statementsAfter = some late ∧ late.get (.course, c) = some course ∧
        execAll ownership c late [courseStatement] = some last ∧
        s' = ⟨last, s.revisions.filter fun r => decide (r.annotationId ∉ annotationIds mid c)⟩ := by
  unfold transaction
  constructor
  · intro h
    obtain ⟨mid, hmid, h⟩ := Option.bind_eq_some_iff.1 h
    obtain ⟨late, hlate, h⟩ := Option.bind_eq_some_iff.1 h
    obtain ⟨course, hcourse, h⟩ := Option.bind_eq_some_iff.1 h
    obtain ⟨last, hlast, h⟩ := Option.bind_eq_some_iff.1 h
    exact ⟨mid, late, course, last, hmid, hlate, hcourse, hlast, (Option.some.inj h).symm⟩
  · rintro ⟨mid, late, course, last, hmid, hlate, hcourse, hlast, rfl⟩
    refine Option.bind_eq_some_iff.2 ⟨mid, hmid, ?_⟩
    refine Option.bind_eq_some_iff.2 ⟨late, hlate, ?_⟩
    refine Option.bind_eq_some_iff.2 ⟨course, hcourse, ?_⟩
    exact Option.bind_eq_some_iff.2 ⟨last, hlast, rfl⟩

theorem deleteCourse_ok {user : JwtPayload} (h : deleteCourse user c s = .ok s') : transaction s c = some s' := by
  unfold deleteCourse at h
  obtain ⟨orgId, -, h⟩ := Lib.bind_ok_iff.1 h
  obtain ⟨course, -, h⟩ := Lib.bind_ok_iff.1 h
  obtain ⟨-, -, h⟩ := Lib.bind_ok_iff.1 h
  obtain ⟨-, -, h⟩ := Lib.bind_ok_iff.1 h
  exact found_ok h

theorem coherent_transaction (h : Coherent ownership s.rows) (hs : transaction s c = some s') :
    Coherent ownership s'.rows := by
  obtain ⟨mid, late, -, last, hmid, hlate, -, hlast, rfl⟩ := transaction_eq_some.1 hs
  exact ((h.execAll hmid).execAll hlate).execAll hlast

theorem coherent_step (h : Coherent ownership s.rows) (hs : step s e = some s') : Coherent ownership s'.rows := by
  cases e with
  | create k row =>
    obtain ⟨-, hs⟩ := Option.ite_none_left_eq_some.1 hs
    obtain ⟨rows, hrows, rfl⟩ := Option.map_eq_some_iff.1 hs
    exact coherent_created h hrows
  | update k row =>
    obtain ⟨-, hs⟩ := Option.ite_none_left_eq_some.1 hs
    obtain ⟨rows, hrows, rfl⟩ := Option.map_eq_some_iff.1 hs
    exact coherent_updated h hrows
  | delete keys =>
    obtain ⟨-, hs⟩ := Option.ite_none_left_eq_some.1 hs
    obtain ⟨rows, hrows, rfl⟩ := Option.map_eq_some_iff.1 hs
    exact h.delete hrows
  | annotate id row userId =>
    obtain ⟨rows, hrows, rfl⟩ := Option.map_eq_some_iff.1 hs
    exact coherent_created h hrows
  | revise id row userId =>
    obtain ⟨rows, hrows, rfl⟩ := Option.map_eq_some_iff.1 hs
    exact coherent_updated h hrows
  | remove id userId =>
    obtain ⟨row, -, hs⟩ := Option.bind_eq_some_iff.1 hs
    obtain ⟨rows, hrows, rfl⟩ := Option.map_eq_some_iff.1 hs
    exact h.delete hrows
  | deleteCourse user courseId => exact coherent_transaction h (deleteCourse_ok (Lib.toOption_eq_some.1 hs))

theorem Reachable.coherent (h : Reachable s) : Coherent ownership s.rows := by
  obtain ⟨es, hes⟩ := h
  exact TransSys.run_keeps (I := fun s : State => Coherent ownership s.rows)
    (fun _ _ _ hs hstep => coherent_step hs hstep) (coherent_empty ownership) hes

end Steps

/-! ## The order of the statements -/

/-- The tables whose rows go with a row of the table. -/
def below : CourseTable → List CourseTable
  | .codingAssignment =>
    [.codingRequirement, .codingRubricItem, .codingSubmission, .codingSubmissionFile, .codingAiReview,
     .codingAiFinding, .codingRequirementResult, .codingFeedback]
  | .assessment => [.assessmentAttempt, .assessmentResponse]
  | .studentGroup => [.studentGroupMember]
  | .tajweedAnnotations => [.tajweedAnnotationPart]
  | .enrollment => [.codingEnrollmentWorkspace]
  | .liveSession => [.recording]
  | .course => [.codingProgramGitConfig]
  | _ => []

def goneBefore : List CourseTable := vacates below [] statementsBefore

def goneAfter : List CourseTable := vacates below goneBefore statementsAfter

def goneLast : List CourseTable := vacates below goneAfter [courseStatement]

theorem orderly_before : Orderly ownership below [] statementsBefore := by
  decide

theorem orderly_after : Orderly ownership below goneBefore statementsAfter := by
  decide

theorem orderly_last : Orderly ownership below goneAfter [courseStatement] := by
  decide

/-- No table is left out. -/
theorem all_gone (t : CourseTable) : t ∈ goneLast := by
  cases t <;> decide

/-! ## What is left -/

section Left

variable {s s' : State} {rows : Rows} {c : CourseId} {course : Row} {id : String}

/-- An annotation of the course stands under the id. -/
def annotated (rows : Rows) (c : CourseId) (id : String) : Bool :=
  (rows.get (.tajweedAnnotations, id)).any fun row => decide (row.refs .tajweedAnnotationCourseId = some c)

theorem annotated_iff_get :
    annotated rows c id = true ↔
      ∃ row, rows.get (.tajweedAnnotations, id) = some row ∧ row.refs .tajweedAnnotationCourseId = some c := by
  unfold annotated
  cases rows.get (.tajweedAnnotations, id) with
  | none => simp
  | some row => simp

theorem annotated_iff : annotated rows c id = true ↔ ownership.Owned rows (.tajweedAnnotations, id) c := by
  have hpath : ownership.path CourseTable.tajweedAnnotations = [.tajweedAnnotationCourseId] := by decide
  rw [annotated_iff_get, Ownership.owned_cons (k := (CourseTable.tajweedAnnotations, id)) hpath]
  constructor
  · rintro ⟨row, hrow, hc⟩
    exact ⟨row, c, hrow, hc, Ownership.owned_root.2 rfl⟩
  · rintro ⟨row, i, hrow, hi, hc⟩
    exact ⟨row, hrow, by rw [hi, Ownership.owned_root.1 hc]⟩

theorem mem_annotationIds : id ∈ annotationIds rows c ↔ annotated rows c id = true := by
  unfold annotationIds
  rw [annotated_iff_get, List.mem_map]
  constructor
  · rintro ⟨⟨⟨t, i⟩, row⟩, he, rfl⟩
    obtain ⟨hmem, htest⟩ := List.mem_filter.1 he
    obtain ⟨ht, hc⟩ := Bool.and_eq_true_iff.1 htest
    obtain rfl : t = .tajweedAnnotations := of_decide_eq_true ht
    exact ⟨row, Lib.Table.get_of_mem hmem, of_decide_eq_true hc⟩
  · rintro ⟨row, hrow, hc⟩
    refine ⟨((.tajweedAnnotations, id), row), List.mem_filter.2 ⟨Lib.Table.mem_of_get hrow, ?_⟩, rfl⟩
    rw [decide_eq_true hc]
    rfl

theorem uncrossed_of_batches (h : batches rows c = 0) : Uncrossed ownership rows c := by
  intro k row col hrow hcross hc
  obtain rfl : col = .courseParentCourseId := of_decide_eq_true hcross
  exact List.countP_eq_zero.1 h (k, row) (Lib.Table.mem_of_get hrow) (decide_eq_true hc)

/-- The annotations are not touched by what is deleted before them. -/
theorem annotated_before {mid : Rows} (h : Shrinks ownership c goneBefore rows mid) :
    annotated mid c id = annotated rows c id := by
  rw [Bool.eq_iff_iff, annotated_iff, annotated_iff]
  refine ⟨h.owned_of _, fun howned => ?_⟩
  obtain ⟨row, hrow, -⟩ := annotated_iff_get.1 (annotated_iff.2 howned)
  have hnot : CourseTable.tajweedAnnotations ∉ goneBefore := by decide
  obtain ⟨row', hrow'⟩ := h.spared _ row hrow hnot
  exact h.owned _ row' hrow' howned

/-- No statement is refused; the rows of the course are gone and no others, with the revisions of the annotations that
still stood in it. -/
theorem transaction_spec (hcoh : Coherent ownership s.rows) (hcourse : s.rows.get (.course, c) = some course)
    (hunc : Uncrossed ownership s.rows c) :
    ∃ s', transaction s c = some s' ∧ Vacated ownership c goneLast s'.rows ∧
      Shrinks ownership c goneLast s.rows s'.rows ∧ Coherent ownership s'.rows ∧
      s'.revisions = s.revisions.filter fun r => !annotated s.rows c r.annotationId := by
  have hempty : Vacated ownership c [] s.rows := fun _ _ _ _ h => nomatch h
  obtain ⟨mid, hmid, hcoh₁, hunc₁, hgone₁, hshrinks₁⟩ := execAll_orderly hcoh hunc hempty orderly_before
  obtain ⟨late, hlate, hcoh₂, hunc₂, hgone₂, hshrinks₂⟩ := execAll_orderly hcoh₁ hunc₁ hgone₁ orderly_after
  obtain ⟨last, hlast, hcoh₃, -, hgone₃, hshrinks₃⟩ := execAll_orderly hcoh₂ hunc₂ hgone₂ orderly_last
  have hsub₂ : goneAfter ⊆ goneLast := subset_vacates _ _
  have hsub₁ : goneBefore ⊆ goneLast := List.Subset.trans (subset_vacates _ _) hsub₂
  have hnot : CourseTable.course ∉ goneAfter := by decide
  obtain ⟨course₁, hcourse₁⟩ := hshrinks₁.spared _ course hcourse fun h => hnot (subset_vacates _ _ h)
  obtain ⟨course₂, hcourse₂⟩ := hshrinks₂.spared _ course₁ hcourse₁ hnot
  refine ⟨_, transaction_eq_some.2 ⟨mid, late, course₂, last, hmid, hlate, hcourse₂, hlast, rfl⟩, hgone₃, ?_, hcoh₃, ?_⟩
  · exact ((hshrinks₁.mono hsub₁).trans (hshrinks₂.mono hsub₂)).trans hshrinks₃
  · refine List.filter_congr fun r _ => ?_
    rw [← annotated_before hshrinks₁, decide_not]
    refine congrArg Bool.not (Bool.eq_iff_iff.2 ?_)
    rw [decide_eq_true_iff]
    exact mem_annotationIds

/-- Nothing of the course is left, nothing refers to it, and nothing else is changed. -/
structure Clean (c : CourseId) (s s' : State) : Prop where
  intact : ∀ k row col i, s'.rows.get k = some row → row.refs col = some i →
    ∃ target, s'.rows.get (schema.target col, i) = some target
  rows_gone : ∀ k row, s'.rows.get k = some row → ¬ownership.Owned s'.rows k c ∧ ¬ownership.Owned s.rows k c
  revisions_gone : ∀ r ∈ s'.revisions, r.courseId ≠ some c
  rows_kept : ∀ k, ¬ownership.Owned s.rows k c → s'.rows.get k = s.rows.get k
  revisions_kept : ∀ r ∈ s.revisions, r.courseId ≠ some c → r ∈ s'.revisions

/-- The revisions of the course are those of the annotations that still stand in it. -/
def HistoryStands (s : State) (c : CourseId) : Prop :=
  ∀ r ∈ s.revisions, (r.courseId = some c ↔ annotated s.rows c r.annotationId = true)

theorem clean_iff (hcoh : Coherent ownership s'.rows) (hgone : Vacated ownership c goneLast s'.rows)
    (hshrinks : Shrinks ownership c goneLast s.rows s'.rows)
    (hrevisions : s'.revisions = s.revisions.filter fun r => !annotated s.rows c r.annotationId) :
    Clean c s s' ↔ HistoryStands s c := by
  have hmem : ∀ r, r ∈ s'.revisions ↔ r ∈ s.revisions ∧ annotated s.rows c r.annotationId = false := by
    intro r
    rw [hrevisions, List.mem_filter, Bool.not_eq_true']
  constructor
  · intro h r hr
    constructor
    · intro hc
      by_contra hnot
      exact h.revisions_gone r ((hmem r).2 ⟨hr, Bool.eq_false_iff.2 hnot⟩) hc
    · intro hstands
      by_contra hc
      rw [((hmem r).1 (h.revisions_kept r hr hc)).2] at hstands
      cases hstands
  · intro h
    refine ⟨hcoh.intact, fun k row hrow => ?_, fun r hr hc => ?_, hshrinks.kept, fun r hr hc => (hmem r).2 ⟨hr, ?_⟩⟩
    · have hnot : ¬ownership.Owned s'.rows k c := fun howned => hgone k row hrow howned (all_gone k.1)
      exact ⟨hnot, fun howned => hnot (hshrinks.owned k row hrow howned)⟩
    · obtain ⟨hr, hnot⟩ := (hmem r).1 hr
      rw [(h r hr).1 hc] at hnot
      cases hnot
    · exact Bool.eq_false_iff.2 fun hstands => hc ((h r hr).2 hstands)

/-- In every state the API comes to, the transaction goes through, and leaves nothing of a course without batches and
changes nothing else just when the history of the course's annotations stands with them. -/
theorem deletion_clean_iff (h : Reachable s) (hcourse : s.rows.get (.course, c) = some course)
    (hbatches : batches s.rows c = 0) : (∃ s', transaction s c = some s' ∧ Clean c s s') ↔ HistoryStands s c := by
  have hunc : Uncrossed ownership s.rows c := uncrossed_of_batches hbatches
  obtain ⟨s', hs', hgone, hshrinks, hcoh, hrevisions⟩ := transaction_spec h.coherent hcourse hunc
  constructor
  · rintro ⟨t, ht, hclean⟩
    rw [hs', Option.some_inj] at ht
    subst ht
    exact (clean_iff hcoh hgone hshrinks hrevisions).1 hclean
  · intro hstands
    exact ⟨s', hs', (clean_iff hcoh hgone hshrinks hrevisions).2 hstands⟩

end Left

/-! ### Two courses -/

namespace Example

def course : Row := ⟨fun _ => none, [("organizationId", "noor")]⟩

def annotationIn (c : CourseId) : Row := ⟨fun col => if col = .tajweedAnnotationCourseId then some c else none, []⟩

/-- One annotation in each of two courses. -/
def noted : List Event :=
  [.create (.course, "c") course, .create (.course, "d") course, .annotate "a" (annotationIn "c") "teacher",
   .annotate "b" (annotationIn "d") "teacher"]

/-- The teacher takes the first one back. -/
def takenBack : List Event := noted ++ [.remove "a" "teacher"]

end Example

open Deletion.Example in
theorem noted_clean :
    ∃ s s', TransSys.run step .empty noted = some s ∧ transaction s "c" = some s' ∧ Clean "c" s s' := by
  have hseen : (TransSys.run step .empty noted).map (fun s =>
      ((s.rows.get (.course, "c")).isSome, batches s.rows "c",
        s.revisions.map fun r => (r.courseId, annotated s.rows "c" r.annotationId))) =
      some (true, 0, [(some "c", true), (some "d", false)]) := by decide
  obtain ⟨s, hs, hseen⟩ := Option.map_eq_some_iff.1 hseen
  obtain ⟨hcourse, hseen⟩ := Prod.mk.inj hseen
  obtain ⟨hbatches, hhistory⟩ := Prod.mk.inj hseen
  obtain ⟨course, hcourse⟩ := Option.isSome_iff_exists.1 hcourse
  obtain ⟨s', hs', hclean⟩ := (deletion_clean_iff ⟨noted, hs⟩ hcourse hbatches).2 fun r hr => by
    have hmem := List.mem_map_of_mem (f := fun r => (r.courseId, annotated s.rows "c" r.annotationId)) hr
    rw [hhistory, List.mem_cons, List.mem_singleton, Prod.mk.injEq, Prod.mk.injEq] at hmem
    rcases hmem with ⟨hc, hstands⟩ | ⟨hc, hstands⟩
    · exact iff_of_true hc hstands
    · rw [hc, hstands]
      decide
  exact ⟨s, s', hs, hs', hclean⟩

open Deletion.Example in
theorem takenBack_left :
    ∃ s s', TransSys.run step .empty takenBack = some s ∧ (s.rows.get (.course, "c")).isSome = true ∧
      batches s.rows "c" = 0 ∧ transaction s "c" = some s' ∧ ¬Clean "c" s s' := by
  have hseen : (TransSys.run step .empty takenBack).bind (fun s => (transaction s "c").map fun s' =>
      ((s.rows.get (.course, "c")).isSome, batches s.rows "c", s'.revisions.map (·.courseId))) =
      some (true, 0, [some "c", some "d", some "c"]) := by decide +kernel
  obtain ⟨s, hs, hseen⟩ := Option.bind_eq_some_iff.1 hseen
  obtain ⟨s', hs', hseen⟩ := Option.map_eq_some_iff.1 hseen
  obtain ⟨hcourse, hseen⟩ := Prod.mk.inj hseen
  obtain ⟨hbatches, hrevisions⟩ := Prod.mk.inj hseen
  refine ⟨s, s', hs, hcourse, hbatches, hs', fun hclean => ?_⟩
  obtain ⟨r, hr, hc⟩ := List.mem_map.1 (hrevisions ▸ List.mem_cons_self : some "c" ∈ s'.revisions.map (·.courseId))
  exact hclean.revisions_gone r hr hc

end Livetich.Courses.Deletion
