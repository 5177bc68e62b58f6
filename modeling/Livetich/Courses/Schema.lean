/-
The tables that hang off a course, as `schema.prisma` has them: the reference columns between them, with what the
database does when the row referred to is deleted, and the column through which each table's rows belong to a course.

A required column without an `onDelete` is restricted, an optional one is set to null; the migrations say the same,
except of a submission's workspace, which they restrict. Columns that refer to users and organizations, whose rows no
course takes with it, are left out, as are the columns that hold an id and are no key: they are plain data. The audit
trail and the log of model calls, which outlive what they tell of on purpose, are not a course's tables.
-/
import Livetich.Lib.Ownership

namespace Livetich.Courses

open Relational

/-! ## Tables -/

inductive CourseTable
  | course
  | courseSection
  | invite
  | assignment
  | studentGroup
  | studentGroupMember
  | submission
  | enrollment
  | liveSession
  | attendance
  | recording
  | sessionReminder
  | chatMessage
  | quiz
  | quizQuestion
  | quizAnswer
  | pointsLedger
  | certificate
  | courseDocument
  | assessmentQuestion
  | remediationTask
  | assessment
  | assessmentAttempt
  | assessmentResponse
  | assignedRemediation
  | hifzTarget
  | hifzEntry
  | tajweedAnnotations
  | tajweedAnnotationPart
  | exam
  | examQuestion
  | examAttempt
  | examAnswer
  | codingAssignment
  | codingRequirement
  | codingRubricItem
  | codingSubmission
  | codingSubmissionFile
  | codingAiReview
  | codingAiFinding
  | codingRequirementResult
  | codingFeedback
  | codingProgramGitConfig
  | codingEnrollmentWorkspace
  deriving DecidableEq

/-! ## Reference columns -/

/-- The name is the table's and the column's. -/
inductive RefColumn
  | courseParentCourseId
  | sectionCourseId
  | inviteCourseId
  | assignmentCourseId
  | assignmentSectionId
  | assignmentSessionId
  | assignmentGroupId
  | studentGroupCourseId
  | studentGroupMemberGroupId
  | submissionAssignmentId
  | enrollmentCourseId
  | liveSessionCourseId
  | liveSessionSectionId
  | attendanceSessionId
  | recordingSessionId
  | recordingCourseId
  | sessionReminderCourseId
  | chatMessageSessionId
  | quizSectionId
  | quizSessionId
  | quizCourseId
  | quizQuestionQuizId
  | quizAnswerQuestionId
  | pointsLedgerCourseId
  | certificateCourseId
  | courseDocumentCourseId
  | assessmentQuestionCourseId
  | assessmentQuestionSectionId
  | remediationTaskCourseId
  | remediationTaskSectionId
  | assessmentCourseId
  | assessmentSessionId
  | assessmentAttemptAssessmentId
  | assessmentResponseAttemptId
  | assessmentResponseQuestionId
  | assignedRemediationTaskId
  | hifzTargetCourseId
  | hifzEntryCourseId
  | hifzEntrySessionId
  | tajweedAnnotationCourseId
  | tajweedAnnotationSectionId
  | tajweedAnnotationSessionId
  | tajweedAnnotationHifzEntryId
  | tajweedAnnotationPartAnnotationId
  | examCourseId
  | examQuestionExamId
  | examAttemptExamId
  | examAnswerAttemptId
  | examAnswerQuestionId
  | codingAssignmentCourseId
  | codingAssignmentSessionId
  | codingRequirementAssignmentId
  | codingRubricItemAssignmentId
  | codingSubmissionAssignmentId
  | codingSubmissionWorkspaceId
  | codingSubmissionFileSubmissionId
  | codingAiReviewSubmissionId
  | codingAiFindingReviewId
  | codingRequirementResultReviewId
  | codingRequirementResultRequirementId
  | codingFeedbackSubmissionId
  | codingProgramGitConfigCourseId
  | codingEnrollmentWorkspaceEnrollmentId
  | codingEnrollmentWorkspaceCourseId
  deriving DecidableEq

structure Relation where
  table : CourseTable
  target : CourseTable
  onDelete : OnDelete

namespace RefColumn

def relation : RefColumn → Relation
  | .courseParentCourseId => ⟨.course, .course, .setNull⟩
  | .sectionCourseId => ⟨.courseSection, .course, .restrict⟩
  | .inviteCourseId => ⟨.invite, .course, .cascade⟩
  | .assignmentCourseId => ⟨.assignment, .course, .restrict⟩
  | .assignmentSectionId => ⟨.assignment, .courseSection, .setNull⟩
  | .assignmentSessionId => ⟨.assignment, .liveSession, .setNull⟩
  | .assignmentGroupId => ⟨.assignment, .studentGroup, .setNull⟩
  | .studentGroupCourseId => ⟨.studentGroup, .course, .restrict⟩
  | .studentGroupMemberGroupId => ⟨.studentGroupMember, .studentGroup, .cascade⟩
  | .submissionAssignmentId => ⟨.submission, .assignment, .restrict⟩
  | .enrollmentCourseId => ⟨.enrollment, .course, .restrict⟩
  | .liveSessionCourseId => ⟨.liveSession, .course, .restrict⟩
  | .liveSessionSectionId => ⟨.liveSession, .courseSection, .setNull⟩
  | .attendanceSessionId => ⟨.attendance, .liveSession, .restrict⟩
  | .recordingSessionId => ⟨.recording, .liveSession, .cascade⟩
  | .recordingCourseId => ⟨.recording, .course, .restrict⟩
  | .sessionReminderCourseId => ⟨.sessionReminder, .course, .restrict⟩
  | .chatMessageSessionId => ⟨.chatMessage, .liveSession, .restrict⟩
  | .quizSectionId => ⟨.quiz, .courseSection, .setNull⟩
  | .quizSessionId => ⟨.quiz, .liveSession, .setNull⟩
  | .quizCourseId => ⟨.quiz, .course, .cascade⟩
  | .quizQuestionQuizId => ⟨.quizQuestion, .quiz, .restrict⟩
  | .quizAnswerQuestionId => ⟨.quizAnswer, .quizQuestion, .restrict⟩
  | .pointsLedgerCourseId => ⟨.pointsLedger, .course, .restrict⟩
  | .certificateCourseId => ⟨.certificate, .course, .restrict⟩
  | .courseDocumentCourseId => ⟨.courseDocument, .course, .restrict⟩
  | .assessmentQuestionCourseId => ⟨.assessmentQuestion, .course, .restrict⟩
  | .assessmentQuestionSectionId => ⟨.assessmentQuestion, .courseSection, .restrict⟩
  | .remediationTaskCourseId => ⟨.remediationTask, .course, .restrict⟩
  | .remediationTaskSectionId => ⟨.remediationTask, .courseSection, .restrict⟩
  | .assessmentCourseId => ⟨.assessment, .course, .restrict⟩
  | .assessmentSessionId => ⟨.assessment, .liveSession, .restrict⟩
  | .assessmentAttemptAssessmentId => ⟨.assessmentAttempt, .assessment, .cascade⟩
  | .assessmentResponseAttemptId => ⟨.assessmentResponse, .assessmentAttempt, .cascade⟩
  | .assessmentResponseQuestionId => ⟨.assessmentResponse, .assessmentQuestion, .restrict⟩
  | .assignedRemediationTaskId => ⟨.assignedRemediation, .remediationTask, .restrict⟩
  | .hifzTargetCourseId => ⟨.hifzTarget, .course, .restrict⟩
  | .hifzEntryCourseId => ⟨.hifzEntry, .course, .restrict⟩
  | .hifzEntrySessionId => ⟨.hifzEntry, .liveSession, .setNull⟩
  | .tajweedAnnotationCourseId => ⟨.tajweedAnnotations, .course, .cascade⟩
  | .tajweedAnnotationSectionId => ⟨.tajweedAnnotations, .courseSection, .setNull⟩
  | .tajweedAnnotationSessionId => ⟨.tajweedAnnotations, .liveSession, .setNull⟩
  | .tajweedAnnotationHifzEntryId => ⟨.tajweedAnnotations, .hifzEntry, .setNull⟩
  | .tajweedAnnotationPartAnnotationId => ⟨.tajweedAnnotationPart, .tajweedAnnotations, .cascade⟩
  | .examCourseId => ⟨.exam, .course, .restrict⟩
  | .examQuestionExamId => ⟨.examQuestion, .exam, .restrict⟩
  | .examAttemptExamId => ⟨.examAttempt, .exam, .restrict⟩
  | .examAnswerAttemptId => ⟨.examAnswer, .examAttempt, .restrict⟩
  | .examAnswerQuestionId => ⟨.examAnswer, .examQuestion, .restrict⟩
  | .codingAssignmentCourseId => ⟨.codingAssignment, .course, .restrict⟩
  | .codingAssignmentSessionId => ⟨.codingAssignment, .liveSession, .setNull⟩
  | .codingRequirementAssignmentId => ⟨.codingRequirement, .codingAssignment, .cascade⟩
  | .codingRubricItemAssignmentId => ⟨.codingRubricItem, .codingAssignment, .cascade⟩
  | .codingSubmissionAssignmentId => ⟨.codingSubmission, .codingAssignment, .cascade⟩
  | .codingSubmissionWorkspaceId => ⟨.codingSubmission, .codingEnrollmentWorkspace, .restrict⟩
  | .codingSubmissionFileSubmissionId => ⟨.codingSubmissionFile, .codingSubmission, .cascade⟩
  | .codingAiReviewSubmissionId => ⟨.codingAiReview, .codingSubmission, .cascade⟩
  | .codingAiFindingReviewId => ⟨.codingAiFinding, .codingAiReview, .cascade⟩
  | .codingRequirementResultReviewId => ⟨.codingRequirementResult, .codingAiReview, .cascade⟩
  | .codingRequirementResultRequirementId => ⟨.codingRequirementResult, .codingRequirement, .cascade⟩
  | .codingFeedbackSubmissionId => ⟨.codingFeedback, .codingSubmission, .cascade⟩
  | .codingProgramGitConfigCourseId => ⟨.codingProgramGitConfig, .course, .cascade⟩
  | .codingEnrollmentWorkspaceEnrollmentId => ⟨.codingEnrollmentWorkspace, .enrollment, .cascade⟩
  | .codingEnrollmentWorkspaceCourseId => ⟨.codingEnrollmentWorkspace, .course, .restrict⟩

def all : List RefColumn :=
  [.courseParentCourseId, .sectionCourseId, .inviteCourseId, .assignmentCourseId, .assignmentSectionId,
   .assignmentSessionId, .assignmentGroupId, .studentGroupCourseId, .studentGroupMemberGroupId,
   .submissionAssignmentId, .enrollmentCourseId, .liveSessionCourseId, .liveSessionSectionId, .attendanceSessionId,
   .recordingSessionId, .recordingCourseId, .sessionReminderCourseId, .chatMessageSessionId, .quizSectionId,
   .quizSessionId, .quizCourseId, .quizQuestionQuizId, .quizAnswerQuestionId, .pointsLedgerCourseId,
   .certificateCourseId, .courseDocumentCourseId, .assessmentQuestionCourseId, .assessmentQuestionSectionId,
   .remediationTaskCourseId, .remediationTaskSectionId, .assessmentCourseId, .assessmentSessionId,
   .assessmentAttemptAssessmentId, .assessmentResponseAttemptId, .assessmentResponseQuestionId,
   .assignedRemediationTaskId, .hifzTargetCourseId, .hifzEntryCourseId, .hifzEntrySessionId,
   .tajweedAnnotationCourseId, .tajweedAnnotationSectionId, .tajweedAnnotationSessionId,
   .tajweedAnnotationHifzEntryId, .tajweedAnnotationPartAnnotationId, .examCourseId, .examQuestionExamId,
   .examAttemptExamId, .examAnswerAttemptId, .examAnswerQuestionId, .codingAssignmentCourseId,
   .codingAssignmentSessionId, .codingRequirementAssignmentId, .codingRubricItemAssignmentId,
   .codingSubmissionAssignmentId, .codingSubmissionWorkspaceId, .codingSubmissionFileSubmissionId,
   .codingAiReviewSubmissionId, .codingAiFindingReviewId, .codingRequirementResultReviewId,
   .codingRequirementResultRequirementId, .codingFeedbackSubmissionId, .codingProgramGitConfigCourseId,
   .codingEnrollmentWorkspaceEnrollmentId, .codingEnrollmentWorkspaceCourseId]

theorem mem_all (col : RefColumn) : col ∈ all := by
  cases col <;> decide

end RefColumn

def schema : Schema CourseTable RefColumn where
  table col := col.relation.table
  target col := col.relation.target
  onDelete col := col.relation.onDelete
  columns := RefColumn.all
  mem_columns := RefColumn.mem_all

/-! ## Belonging to a course -/

namespace CourseTable

/-- The column through which the rows of a table belong to a course. -/
def owner : CourseTable → Option RefColumn
  | .course => none
  | .courseSection => some .sectionCourseId
  | .invite => some .inviteCourseId
  | .assignment => some .assignmentCourseId
  | .studentGroup => some .studentGroupCourseId
  | .studentGroupMember => some .studentGroupMemberGroupId
  | .submission => some .submissionAssignmentId
  | .enrollment => some .enrollmentCourseId
  | .liveSession => some .liveSessionCourseId
  | .attendance => some .attendanceSessionId
  | .recording => some .recordingSessionId
  | .sessionReminder => some .sessionReminderCourseId
  | .chatMessage => some .chatMessageSessionId
  | .quiz => some .quizCourseId
  | .quizQuestion => some .quizQuestionQuizId
  | .quizAnswer => some .quizAnswerQuestionId
  | .pointsLedger => some .pointsLedgerCourseId
  | .certificate => some .certificateCourseId
  | .courseDocument => some .courseDocumentCourseId
  | .assessmentQuestion => some .assessmentQuestionCourseId
  | .remediationTask => some .remediationTaskCourseId
  | .assessment => some .assessmentCourseId
  | .assessmentAttempt => some .assessmentAttemptAssessmentId
  | .assessmentResponse => some .assessmentResponseAttemptId
  | .assignedRemediation => some .assignedRemediationTaskId
  | .hifzTarget => some .hifzTargetCourseId
  | .hifzEntry => some .hifzEntryCourseId
  | .tajweedAnnotations => some .tajweedAnnotationCourseId
  | .tajweedAnnotationPart => some .tajweedAnnotationPartAnnotationId
  | .exam => some .examCourseId
  | .examQuestion => some .examQuestionExamId
  | .examAttempt => some .examAttemptExamId
  | .examAnswer => some .examAnswerAttemptId
  | .codingAssignment => some .codingAssignmentCourseId
  | .codingRequirement => some .codingRequirementAssignmentId
  | .codingRubricItem => some .codingRubricItemAssignmentId
  | .codingSubmission => some .codingSubmissionAssignmentId
  | .codingSubmissionFile => some .codingSubmissionFileSubmissionId
  | .codingAiReview => some .codingAiReviewSubmissionId
  | .codingAiFinding => some .codingAiFindingReviewId
  | .codingRequirementResult => some .codingRequirementResultReviewId
  | .codingFeedback => some .codingFeedbackSubmissionId
  | .codingProgramGitConfig => some .codingProgramGitConfigCourseId
  | .codingEnrollmentWorkspace => some .codingEnrollmentWorkspaceEnrollmentId

/-- No table is further than five references away from its course. -/
def pathFrom : Nat → CourseTable → List RefColumn
  | 0, _ => []
  | n + 1, t =>
    match t.owner with
    | none => []
    | some o => o :: pathFrom n o.relation.target

def path (t : CourseTable) : List RefColumn := pathFrom 5 t

theorem path_spec (t : CourseTable) :
    (t.path = [] → t = .course) ∧ ∀ o ∈ t.path.head?,
      (o.relation.table = t ∧ o.relation.target.path = t.path.tail) ∧
        o.relation.onDelete ≠ .setNull ∧ o ≠ .courseParentCourseId := by
  cases t <;> decide

end CourseTable

/-- Rows belong to courses; only a batch's program is another course than its own. -/
def ownership : Ownership schema where
  root := .course
  path := CourseTable.path
  crossing col := decide (col = .courseParentCourseId)
  path_root := rfl
  path_nil t := t.path_spec.1
  path_cons t o ps h := by
    have hspec := t.path_spec.2 o
    rw [h] at hspec
    exact (hspec rfl).1
  path_stays t o ps h := by
    have hspec := t.path_spec.2 o
    rw [h] at hspec
    exact ⟨(hspec rfl).2.1, decide_eq_false (hspec rfl).2.2⟩
  crossing_root col h := by
    rw [of_decide_eq_true h]
    rfl

end Livetich.Courses
