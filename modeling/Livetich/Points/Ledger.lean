/-
The rows of the points ledger with the reason and the record that each was posted for, and the sums that are read of
them (`pointsLedger.aggregate`). `PointsService.award` is the only writer, and it only adds.
-/
import Mathlib.Algebra.Ring.Int.Defs
import Livetich.Model
import Livetich.Lib.Ledger

namespace Livetich.Points

open Livetich.Lib.Ledger

inductive PointsReason
  | quizCorrect
  | buzzerWin
  | participation
  | assignmentGraded
  deriving DecidableEq

/-- Points awarded per correct quiz answer. -/
def pointsQuizCorrect : Int := 10

/-- What `award` is given, and the row it creates. -/
structure Award where
  studentId : UserId
  courseId : CourseId
  delta : Int
  reason : PointsReason
  /-- The id of the record the points came from. -/
  refId : Option Nat
  deriving DecidableEq

/-- The rows posted for one record and one reason. -/
def Award.isFor (reason : PointsReason) (refId : Nat) (row : Award) : Bool :=
  row.reason == reason && row.refId == some refId

/-- `aggregate({ where: { studentId, courseId, reason, refId }, _sum: { delta } })`; no rows sum to null, which every
reader takes for zero. -/
def sumOf (studentId : UserId) (courseId : CourseId) (reason : PointsReason) (refId : Nat) (rows : List Award) : Int :=
  balance Award.delta
    (fun row => row.studentId == studentId && row.courseId == courseId && row.isFor reason refId) rows

/-- The sum of the deltas posted for one record and one reason, whoever they went to. -/
def worth (reason : PointsReason) (refId : Nat) (rows : List Award) : Int :=
  balance Award.delta (Award.isFor reason refId) rows

/-- The sum of the deltas posted for one record, whatever the reason. -/
def paidFor (refId : Nat) (rows : List Award) : Int := balance Award.delta (fun row => row.refId == some refId) rows

/-- The two sums agree where all rows of a record went to one student of one course. -/
theorem sumOf_eq_worth {studentId : UserId} {courseId : CourseId} {reason : PointsReason} {refId : Nat}
    {rows : List Award}
    (h : ∀ row ∈ rows, row.isFor reason refId = true → row.studentId = studentId ∧ row.courseId = courseId) :
    sumOf studentId courseId reason refId rows = worth reason refId rows := by
  refine balance_congr fun row hrow => ?_
  by_cases hfor : row.isFor reason refId = true
  · obtain ⟨hstudent, hcourse⟩ := h row hrow hfor
    rw [hfor, hstudent, hcourse, beq_self_eq_true, beq_self_eq_true]
    rfl
  · rw [Bool.eq_false_iff.2 hfor, Bool.and_false]

end Livetich.Points
