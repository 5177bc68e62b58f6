/-
The rows of the coding plugin that a review, a ruling and the reads of a class touch, what the AI
model answers, and the rule that keeps its opinion from students (`ai-visibility.ts`). Rows are kept
in the order they were created. Texts are cut by characters where the source counts UTF-16 units.
-/
import Livetich.Model
import Livetich.Lib.Table

namespace Livetich.Coding

open Livetich.Lib

abbrev AssignmentId := String
abbrev SubmissionId := String
abbrev RequirementId := String
abbrev ReviewId := String

/-! ## Rows -/

inductive CodingSubmissionStatus
  | submitted
  | underReview
  | aiReviewed
  | needsReview
  | passed
  | failed
  | returned
  deriving DecidableEq

inductive CodingAssignmentStatus
  | draft
  | live
  | closed
  deriving DecidableEq

inductive AiReviewStatus
  | queued
  | running
  | done
  | error
  deriving DecidableEq

inductive AiConfidence
  | high
  | medium
  | low
  deriving DecidableEq

inductive CodingVerdict
  | pass
  | partly
  | fail
  deriving DecidableEq

inductive CodingFindingKind
  | bug
  | security
  | quality
  | architecture
  | strength
  deriving DecidableEq

structure CodingRequirement where
  id : RequirementId
  text : String
  mandatory : Bool
  deriving DecidableEq

structure CodingRubricItem where
  criterion : String
  weight : Int
  mandatory : Bool
  aiInstructions : Option String
  deriving DecidableEq

/-- An assignment with its requirements and rubric, both by `order`. -/
structure CodingAssignment where
  courseId : CourseId
  sessionId : Option SessionId
  title : String
  description : Option String
  language : Option String
  framework : Option String
  difficulty : Option String
  workspacePath : Option String
  status : CodingAssignmentStatus
  dueAt : Option Int
  maxAttempts : Nat
  allowResubmit : Bool
  aiAutoReview : Bool
  showAiToStudents : Bool
  requirements : List CodingRequirement
  rubric : List CodingRubricItem
  deriving DecidableEq

structure CodingSubmissionFile where
  path : String
  size : Nat
  language : Option String
  deriving DecidableEq

structure CodingSubmission where
  assignmentId : AssignmentId
  studentId : UserId
  attemptNumber : Nat
  archiveUrl : Option String
  archiveHash : Option String
  workspaceId : Option String
  commitSha : Option String
  status : CodingSubmissionStatus
  provisionalScore : Option Nat
  finalScore : Option Nat
  finalDecision : Option CodingVerdict
  reviewedById : Option UserId
  reviewedAt : Option Int
  submittedAt : Int
  deriving DecidableEq

/-- A finding of the AI model, in its answer and in a review row. -/
structure Finding where
  kind : CodingFindingKind
  title : String
  body : String
  confidence : AiConfidence
  deriving DecidableEq

structure RequirementResult where
  requirementId : RequirementId
  verdict : CodingVerdict
  deriving DecidableEq

structure CodingAiReview where
  submissionId : SubmissionId
  status : AiReviewStatus
  score : Option Nat
  confidence : Option AiConfidence
  summary : Option String
  error : Option String
  findings : List Finding
  results : List RequirementResult
  deriving DecidableEq

structure CodingFeedback where
  submissionId : SubmissionId
  authorId : UserId
  body : String
  filePath : Option String
  line : Option Nat
  visibleToStudent : Bool
  deriving DecidableEq

structure Student where
  id : UserId
  name : String
  email : String
  deriving DecidableEq

structure Enrollment where
  courseId : CourseId
  studentId : UserId
  deriving DecidableEq

structure Db where
  assignments : Table AssignmentId CodingAssignment
  submissions : Table SubmissionId CodingSubmission
  files : List (SubmissionId × CodingSubmissionFile)
  reviews : Table ReviewId CodingAiReview
  feedback : List CodingFeedback
  students : List Student
  enrollments : List Enrollment
  /-- The titles of the courses. -/
  courses : List (CourseId × String)
  sessions : List (SessionId × SessionStatus)

/-! ## What the AI model answers -/

/-- An answer that passes `ReviewSchema`. -/
structure ReviewOutput where
  overallScore : Nat
  confidence : AiConfidence
  summary : String
  requirementResults : List RequirementResult
  findings : List Finding
  deriving DecidableEq

/-- The first result for each requirement of the assignment, in the order of the answer. -/
def validResults (requirements : List CodingRequirement) (results : List RequirementResult) : List RequirementResult :=
  (results.foldl (fun (acc : List RequirementResult × List RequirementId) r =>
    if (requirements.any (·.id == r.requirementId)) && !acc.2.contains r.requirementId then
      (acc.1 ++ [r], acc.2 ++ [r.requirementId])
    else acc) ([], [])).1

def cut (n : Nat) (text : String) : String := String.ofList (text.toList.take n)

/-- The review row once `persist` has written it. -/
def CodingAiReview.persisted (row : CodingAiReview) (requirements : List CodingRequirement) (out : ReviewOutput) :
    CodingAiReview :=
  { row with
    status := .done
    score := some out.overallScore
    confidence := some out.confidence
    summary := some out.summary
    findings := row.findings ++ out.findings.map fun f => { f with title := cut 250 f.title }
    results := row.results ++ validResults requirements out.requirementResults }

/-- The submission status `persist` writes. -/
def persistedStatus (out : ReviewOutput) : CodingSubmissionStatus :=
  if out.confidence = .low then .needsReview else .aiReviewed

/-! ## The instructor's ruling -/

inductive DecisionKind
  | pass
  | fail
  | giveBack
  deriving DecidableEq

structure DecisionDto where
  decision : DecisionKind
  finalScore : Option Nat
  feedback : Option String
  deriving DecidableEq

def DecisionKind.status : DecisionKind → CodingSubmissionStatus
  | .pass => .passed
  | .fail => .failed
  | .giveBack => .returned

def DecisionKind.finalDecision : DecisionKind → Option CodingVerdict
  | .pass => some .pass
  | .fail => some .fail
  | .giveBack => none

/-- The status of a submission the instructor has ruled on. -/
def CodingSubmissionStatus.isRuling : CodingSubmissionStatus → Bool
  | .passed | .failed | .returned => true
  | _ => false

/-- The row once `decide` has written it; a score that is not given stays. -/
def CodingSubmission.decided (row : CodingSubmission) (dto : DecisionDto) (userId : UserId) (now : Int) :
    CodingSubmission :=
  { row with
    status := dto.decision.status
    finalDecision := dto.decision.finalDecision
    finalScore := dto.finalScore.or row.finalScore
    reviewedById := some userId
    reviewedAt := some now }

@[simp] theorem isRuling_status (d : DecisionKind) : d.status.isRuling = true := by
  cases d <;> rfl

end Livetich.Coding
