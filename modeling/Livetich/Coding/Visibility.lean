/-
What students read of their submissions: `ai-visibility.ts`, `CodingService.get` and `mine`, and
`CodingSubmissionsService.getSubmission`. With `showAiToStudents` off, none of these reads, and no
board of the class, tells two states of the database apart that differ in reviews and provisional
scores only.
-/
import Livetich.Coding.Review
import Livetich.Courses.Model

namespace Livetich.Coding

open TransSys Lib
open Livetich.Courses (Result HttpError require found)

/-! ## The rule -/

/-- What carries AI output, and its copy without it. -/
class AiRedactable (α : Type) where
  withoutAi : α → α

def forStudent {α : Type} [AiRedactable α] (submission : α) (showAiToStudents isOwner : Bool) : α :=
  if !isOwner || showAiToStudents then submission else AiRedactable.withoutAi submission

/-! ## The reads -/

/-- The reviews of a submission, latest first. -/
def reviewsOf (db : Db) (x : SubmissionId) : List (ReviewId × CodingAiReview) :=
  (db.reviews.entries.filter (·.2.submissionId == x)).reverse

def feedbackOf (db : Db) (x : SubmissionId) : List CodingFeedback := db.feedback.filter (·.submissionId == x)

/-- An attempt in the detail of an assignment. -/
structure MySubmission where
  id : SubmissionId
  row : CodingSubmission
  reviews : List (ReviewId × CodingAiReview)
  feedback : List CodingFeedback
  deriving DecidableEq

instance : AiRedactable MySubmission :=
  ⟨fun s => { s with row := { s.row with provisionalScore := none }, reviews := [] }⟩

structure AssignmentDetail where
  id : AssignmentId
  assignment : CodingAssignment
  mySubmissions : Option (List MySubmission)
  deriving DecidableEq

def mySubmission (db : Db) (e : SubmissionId × CodingSubmission) : MySubmission :=
  ⟨e.1, e.2, (reviewsOf db e.1).take 1, (feedbackOf db e.1).filter (·.visibleToStudent)⟩

/-- Lowest attempt first. -/
def attemptAsc (a b : SubmissionId × CodingSubmission) : Prop := a.2.attemptNumber ≤ b.2.attemptNumber

instance : DecidableRel attemptAsc :=
  fun a b => inferInstanceAs (Decidable (a.2.attemptNumber ≤ b.2.attemptNumber))

/-- A student's own attempts. -/
def ownAttempts (db : Db) (id : AssignmentId) (userId : UserId) : List (SubmissionId × CodingSubmission) :=
  (db.submissions.entries.filter fun e =>
    e.2.assignmentId == id && e.2.studentId == userId).insertionSort attemptAsc

/-- `CodingService.get`; `manages` is what `assertCanManageCourse` answers. -/
def get (db : Db) (user : JwtPayload) (id : AssignmentId) (manages : Result Unit) : Result AssignmentDetail := do
  let a ← found (db.assignments.get id) (.notFound "Assignment not found")
  if user.role ≠ .student then
    manages
    return ⟨id, a, none⟩
  require (db.enrollments.any (fun e => e.courseId == a.courseId && e.studentId == user.sub))
    (.forbidden "Not enrolled in this program")
  return ⟨id, a, some ((ownAttempts db id user.sub).map fun e =>
    forStudent (mySubmission db e) a.showAiToStudents true)⟩

/-- The latest attempt in the list of a student's assignments. -/
structure LatestSubmission where
  id : SubmissionId
  attemptNumber : Nat
  status : CodingSubmissionStatus
  finalScore : Option Nat
  provisionalScore : Option Nat
  deriving DecidableEq

instance : AiRedactable LatestSubmission := ⟨fun s => { s with provisionalScore := none }⟩

structure MyAssignment where
  id : AssignmentId
  title : String
  language : Option String
  framework : Option String
  difficulty : Option String
  workspacePath : Option String
  courseId : CourseId
  courseTitle : Option String
  sessionId : Option SessionId
  sessionLive : Bool
  status : CodingAssignmentStatus
  dueAt : Option Int
  requirementCount : Nat
  maxAttempts : Nat
  allowResubmit : Bool
  latestSubmission : Option LatestSubmission
  deriving DecidableEq

def latestSubmission (e : SubmissionId × CodingSubmission) : LatestSubmission :=
  ⟨e.1, e.2.attemptNumber, e.2.status, e.2.finalScore, e.2.provisionalScore⟩

/-- A student's row for one assignment. -/
def myAssignment (db : Db) (userId : UserId) (id : AssignmentId) (a : CodingAssignment) : MyAssignment where
  id := id
  title := a.title
  language := a.language
  framework := a.framework
  difficulty := a.difficulty
  workspacePath := a.workspacePath
  courseId := a.courseId
  courseTitle := (db.courses.find? (·.1 == a.courseId)).map (·.2)
  sessionId := a.sessionId
  sessionLive := a.sessionId.any fun s => (db.sessions.find? (·.1 == s)).any (·.2 == .live)
  status := a.status
  dueAt := a.dueAt
  requirementCount := a.requirements.length
  maxAttempts := a.maxAttempts
  allowResubmit := a.allowResubmit
  latestSubmission := ((attempts db id).find? (·.2.studentId == userId)).map fun e =>
    forStudent (latestSubmission e) a.showAiToStudents true

/-- `CodingService.mine`, latest assignment first. -/
def mine (db : Db) (user : JwtPayload) : List MyAssignment :=
  let courseIds := (db.enrollments.filter (·.studentId == user.sub)).map (·.courseId)
  if courseIds.isEmpty then []
  else
    ((db.assignments.entries.filter fun e => courseIds.contains e.2.courseId && e.2.status != .draft).reverse).map
      fun e => myAssignment db user.sub e.1 e.2

structure SubmissionDetail where
  id : SubmissionId
  row : CodingSubmission
  files : List CodingSubmissionFile
  student : Option Student
  assignment : Option CodingAssignment
  reviews : List (ReviewId × CodingAiReview)
  feedback : List CodingFeedback
  deriving DecidableEq

instance : AiRedactable SubmissionDetail :=
  ⟨fun s => { s with row := { s.row with provisionalScore := none }, reviews := [] }⟩

def byPath (a b : CodingSubmissionFile) : Prop := a.path ≤ b.path

instance : DecidableRel byPath := fun a b => inferInstanceAs (Decidable (a.path ≤ b.path))

def submissionDetail (db : Db) (isOwner : Bool) (x : SubmissionId) (row : CodingSubmission) : SubmissionDetail where
  id := x
  row := row
  files := ((db.files.filter (·.1 == x)).map (·.2)).insertionSort byPath
  student := db.students.find? (·.id == row.studentId)
  assignment := db.assignments.get row.assignmentId
  reviews := reviewsOf db x
  feedback := (feedbackOf db x).filter fun f => !isOwner || f.visibleToStudent

/-- `CodingSubmissionsService.getSubmission`; `manages` is what `assertCanManageCourse` answers. -/
def getSubmission (db : Db) (user : JwtPayload) (x : SubmissionId) (manages : Result Unit) :
    Result SubmissionDetail := do
  let row ← found (db.submissions.get x) (.notFound "Submission not found")
  let isOwner := row.studentId == user.sub
  if !isOwner then manages
  let showAi := (db.assignments.get row.assignmentId).any (·.showAiToStudents)
  return forStudent (submissionDetail db isOwner x row) showAi isOwner

/-! ## What two runs have in common -/

/-- A row without what the AI model decides: of the assignment in question its score, of others
the status too. -/
def hideRow (a : AssignmentId) (row : CodingSubmission) : CodingSubmission :=
  if row.assignmentId = a then { row with provisionalScore := none }
  else { row with provisionalScore := none, status := .submitted }

def hideEntry (a : AssignmentId) (e : SubmissionId × CodingSubmission) : SubmissionId × CodingSubmission :=
  (e.1, hideRow a e.2)

/-- Two states of the database that differ in AI output only. -/
structure Alike (a : AssignmentId) (db₁ db₂ : Db) : Prop where
  assignments : db₁.assignments = db₂.assignments
  submissions : db₁.submissions.entries.map (hideEntry a) = db₂.submissions.entries.map (hideEntry a)
  files : db₁.files = db₂.files
  feedback : db₁.feedback = db₂.feedback
  students : db₁.students = db₂.students
  enrollments : db₁.enrollments = db₂.enrollments
  courses : db₁.courses = db₂.courses
  sessions : db₁.sessions = db₂.sessions

section Rows

variable {a : AssignmentId} {row : CodingSubmission}

@[simp] theorem hideRow_assignmentId : (hideRow a row).assignmentId = row.assignmentId := by
  unfold hideRow
  split <;> rfl

@[simp] theorem hideRow_studentId : (hideRow a row).studentId = row.studentId := by
  unfold hideRow
  split <;> rfl

@[simp] theorem hideRow_attemptNumber : (hideRow a row).attemptNumber = row.attemptNumber := by
  unfold hideRow
  split <;> rfl

theorem hideRow_of_eq (h : row.assignmentId = a) : hideRow a row = { row with provisionalScore := none } := by
  unfold hideRow
  rw [if_pos h]

end Rows

/-! ## Lists that are alike -/

section Lists

variable {α β : Type} {h : α → α}

/-- What a view makes of the entries without looking at what is hidden. -/
theorem map_eq_of_hidden {l₁ l₂ : List α} (heq : l₁.map h = l₂.map h) {g₁ g₂ : α → β}
    (h₁ : ∀ e ∈ l₁, g₁ (h e) = g₁ e) (h₂ : ∀ e ∈ l₂, g₂ (h e) = g₂ e) (hg : ∀ e, g₁ (h e) = g₂ (h e)) :
    l₁.map g₁ = l₂.map g₂ := by
  have hleft : l₁.map g₁ = (l₁.map h).map g₁ := by
    rw [List.map_map]
    exact List.map_congr_left fun e he => (h₁ e he).symm
  have hright : (l₂.map h).map g₂ = l₂.map g₂ := by
    rw [List.map_map]
    exact List.map_congr_left fun e he => h₂ e he
  rw [hleft, ← hright, ← heq, List.map_map, List.map_map]
  exact List.map_congr_left fun e _ => hg e

theorem map_filter_hidden {l₁ l₂ : List α} (heq : l₁.map h = l₂.map h) {p : α → Bool} (hp : ∀ e, p (h e) = p e) :
    (l₁.filter p).map h = (l₂.filter p).map h := by
  have hcomp : p ∘ h = p := funext hp
  have hmap : ∀ l : List α, (l.filter p).map h = (l.map h).filter p := by
    intro l
    rw [List.filter_map, hcomp]
  rw [hmap, hmap, heq]

theorem map_sort_hidden {l₁ l₂ : List α} (heq : l₁.map h = l₂.map h) {r : α → α → Prop} [DecidableRel r]
    (hr : ∀ e e', r (h e) (h e') ↔ r e e') : (l₁.insertionSort r).map h = (l₂.insertionSort r).map h := by
  have hmap : ∀ l : List α, (l.insertionSort r).map h = (l.map h).insertionSort r := by
    intro l
    exact List.map_insertionSort r r h l fun e _ e' _ => (hr e e').symm
  rw [hmap, hmap, heq]

theorem map_find_hidden {l₁ l₂ : List α} (heq : l₁.map h = l₂.map h) {p : α → Bool} (hp : ∀ e, p (h e) = p e) :
    (l₁.find? p).map h = (l₂.find? p).map h := by
  have hcomp : p ∘ h = p := funext hp
  have hmap : ∀ l : List α, (l.find? p).map h = (l.map h).find? p := by
    intro l
    rw [List.find?_map, hcomp]
  rw [hmap, hmap, heq]

/-- Entries that are alike stay alike under changes that keep each pair alike. -/
theorem map_map_hidden {g₁ g₂ : α → α} : ∀ {l₁ l₂ : List α}, l₁.map h = l₂.map h →
    (∀ e₁ ∈ l₁, ∀ e₂ ∈ l₂, h e₁ = h e₂ → h (g₁ e₁) = h (g₂ e₂)) → (l₁.map g₁).map h = (l₂.map g₂).map h
  | [], [], _, _ => rfl
  | [], _ :: _, heq, _ => by cases heq
  | _ :: _, [], heq, _ => by cases heq
  | e₁ :: l₁, e₂ :: l₂, heq, hg => by
    obtain ⟨hhead, htail⟩ := List.cons.inj heq
    have ih := map_map_hidden htail fun e he e' he' =>
      hg e (List.mem_cons_of_mem _ he) e' (List.mem_cons_of_mem _ he')
    rw [List.map_cons, List.map_cons, List.map_cons, List.map_cons, ih,
      hg e₁ List.mem_cons_self e₂ List.mem_cons_self hhead]

end Lists

/-! ## The reads are the same -/

namespace Alike

variable {a : AssignmentId} {db₁ db₂ : Db}

theorem attempts (h : Alike a db₁ db₂) :
    (Coding.attempts db₁ a).map (hideEntry a) = (Coding.attempts db₂ a).map (hideEntry a) := by
  refine map_sort_hidden (map_filter_hidden h.submissions fun e => ?_) fun e e' => ?_
  · simp [hideEntry]
  · simp [attemptDesc, hideEntry]

theorem latest (h : Alike a db₁ db₂) (userId : UserId) :
    ((Coding.attempts db₁ a).find? (·.2.studentId == userId)).map (hideEntry a) =
      ((Coding.attempts db₂ a).find? (·.2.studentId == userId)).map (hideEntry a) :=
  map_find_hidden h.attempts fun e => by simp [hideEntry]

theorem get_eq (h : Alike a db₁ db₂) (x : SubmissionId) :
    (db₁.submissions.get x).map (hideRow a) = (db₂.submissions.get x).map (hideRow a) := by
  have hfind := map_find_hidden (p := fun e => e.1 == x) h.submissions fun e => rfl
  unfold Table.get
  have hmap : ∀ o : Option (SubmissionId × CodingSubmission),
      (o.map (·.2)).map (hideRow a) = (o.map (hideEntry a)).map (·.2) := by
    intro o
    cases o <;> rfl
  rw [hmap, hmap, hfind]

end Alike

theorem mem_attempts {db : Db} {a : AssignmentId} {e : SubmissionId × CodingSubmission} (h : e ∈ attempts db a) :
    e.2.assignmentId = a := by
  unfold attempts at h
  rw [List.mem_insertionSort] at h
  simpa using (List.mem_filter.1 h).2

/-! Each path shows nothing of what is hidden. -/

section Paths

variable {a : AssignmentId} {db₁ db₂ : Db} {assignment : CodingAssignment}

/-- An option read through a function that does not look at what is hidden. -/
theorem option_map_eq {α β : Type} {h : α → α} {o₁ o₂ : Option α} (heq : o₁.map h = o₂.map h) {g : α → β}
    (h₁ : ∀ e ∈ o₁, g (h e) = g e) (h₂ : ∀ e ∈ o₂, g (h e) = g e) : o₁.map g = o₂.map g := by
  cases o₁ with
  | none =>
    cases o₂ with
    | none => rfl
    | some e₂ => cases heq
  | some e₁ =>
    cases o₂ with
    | none => cases heq
    | some e₂ =>
      have heq : h e₁ = h e₂ := Option.some.inj heq
      rw [Option.map_some, Option.map_some, ← h₁ e₁ rfl, heq, h₂ e₂ rfl]

/-- Without the setting, the AI's score does not reach the board. -/
theorem boardScore_withheld (finalScore p q : Option Nat) :
    boardScore finalScore p false = boardScore finalScore q false := by
  cases finalScore <;> rfl

theorem pointEntry_hide {e : SubmissionId × CodingSubmission} (he : e.2.assignmentId = a) (student : Student) :
    pointEntry false student (some (hideEntry a e).2) = pointEntry false student (some e.2) := by
  unfold hideEntry
  rw [hideRow_of_eq he]
  unfold pointEntry
  rw [Option.bind_some, Option.bind_some, boardScore_withheld _ _ e.2.provisionalScore]
  rfl

theorem standings_alike (h : Alike a db₁ db₂) (courseId : CourseId) :
    standings db₁ a courseId false = standings db₂ a courseId false := by
  have hroster : roster db₁ courseId = roster db₂ courseId := by
    unfold roster
    rw [h.enrollments, h.students]
  have hentry : ∀ student : Student, ∀ db : Db,
      pointEntry false student (((attempts db a).find? (·.2.studentId == student.id)).map (·.2)) =
        (((attempts db a).find? (·.2.studentId == student.id)).map fun e => pointEntry false student (some e.2)).getD
          (pointEntry false student none) := by
    intro student db
    cases (attempts db a).find? (·.2.studentId == student.id) <;> rfl
  unfold standings
  rw [hroster]
  congr 1
  refine List.map_congr_left fun student _ => ?_
  rw [hentry, hentry]
  congr 1
  refine option_map_eq (h.latest student.id) (fun e he => ?_) fun e he => ?_
  · exact pointEntry_hide (mem_attempts (List.mem_of_find?_eq_some he)) student
  · exact pointEntry_hide (mem_attempts (List.mem_of_find?_eq_some he)) student

theorem mem_ownAttempts {db : Db} {userId : UserId} {e : SubmissionId × CodingSubmission}
    (h : e ∈ ownAttempts db a userId) : e.2.assignmentId = a := by
  unfold ownAttempts at h
  rw [List.mem_insertionSort] at h
  have hp := (List.mem_filter.1 h).2
  rw [Bool.and_eq_true, beq_iff_eq] at hp
  exact hp.1

theorem Alike.ownAttempts (h : Alike a db₁ db₂) (userId : UserId) :
    (Coding.ownAttempts db₁ a userId).map (hideEntry a) = (Coding.ownAttempts db₂ a userId).map (hideEntry a) := by
  refine map_sort_hidden (map_filter_hidden h.submissions fun e => ?_) fun e e' => ?_
  · simp [hideEntry]
  · simp [attemptAsc, hideEntry]

theorem forStudent_mySubmission {db : Db} {e : SubmissionId × CodingSubmission} (he : e.2.assignmentId = a) :
    forStudent (mySubmission db (hideEntry a e)) false true = forStudent (mySubmission db e) false true := by
  unfold hideEntry
  rw [hideRow_of_eq he]
  rfl

theorem forStudent_mySubmission_db (h : Alike a db₁ db₂) (e : SubmissionId × CodingSubmission) :
    forStudent (mySubmission db₁ e) false true = forStudent (mySubmission db₂ e) false true := by
  have hfeedback : feedbackOf db₁ e.1 = feedbackOf db₂ e.1 := by
    unfold feedbackOf
    rw [h.feedback]
  show (⟨e.1, _, [], (feedbackOf db₁ e.1).filter (·.visibleToStudent)⟩ : MySubmission) =
    ⟨e.1, _, [], (feedbackOf db₂ e.1).filter (·.visibleToStudent)⟩
  rw [hfeedback]
  rfl

theorem get_alike (h : Alike a db₁ db₂) (ha : db₁.assignments.get a = some assignment)
    (hoff : assignment.showAiToStudents = false) {user : JwtPayload} (hrole : user.role = .student)
    (manages : Result Unit) : get db₁ user a manages = get db₂ user a manages := by
  have hlist : (ownAttempts db₁ a user.sub).map (fun e => forStudent (mySubmission db₁ e) false true) =
      (ownAttempts db₂ a user.sub).map (fun e => forStudent (mySubmission db₂ e) false true) :=
    map_eq_of_hidden (h.ownAttempts user.sub) (fun e he => forStudent_mySubmission (mem_ownAttempts he))
      (fun e he => forStudent_mySubmission (mem_ownAttempts he)) fun e => forStudent_mySubmission_db h _
  unfold get
  rw [← h.assignments, ← h.enrollments, ha]
  simp only [found, hrole, ne_eq, not_true, ite_false, bind, Except.bind, pure, Except.pure, hoff, hlist]

theorem forStudent_latest {e : SubmissionId × CodingSubmission} (he : e.2.assignmentId = a) :
    forStudent (latestSubmission (hideEntry a e)) false true = forStudent (latestSubmission e) false true := by
  unfold hideEntry
  rw [hideRow_of_eq he]
  rfl

theorem myAssignment_alike (h : Alike a db₁ db₂) (hoff : assignment.showAiToStudents = false) (userId : UserId) :
    myAssignment db₁ userId a assignment = myAssignment db₂ userId a assignment := by
  have hlatest : ((attempts db₁ a).find? (·.2.studentId == userId)).map
        (fun e => forStudent (latestSubmission e) false true) =
      ((attempts db₂ a).find? (·.2.studentId == userId)).map
        (fun e => forStudent (latestSubmission e) false true) := by
    refine option_map_eq (h.latest userId) (fun e he => ?_) fun e he => ?_
    · exact forStudent_latest (mem_attempts (List.mem_of_find?_eq_some he))
    · exact forStudent_latest (mem_attempts (List.mem_of_find?_eq_some he))
  unfold myAssignment
  rw [hoff, hlatest, h.courses, h.sessions]

/-- The list of a student's assignments, as far as the one in question goes. -/
theorem mine_alike (h : Alike a db₁ db₂) (ha : db₁.assignments.get a = some assignment)
    (hoff : assignment.showAiToStudents = false) (user : JwtPayload) :
    (mine db₁ user).filter (·.id == a) = (mine db₂ user).filter (·.id == a) := by
  unfold mine
  rw [← h.enrollments, ← h.assignments]
  dsimp only
  split
  · rfl
  · rw [List.filter_map, List.filter_map]
    refine List.map_congr_left fun e he => ?_
    obtain ⟨he, hid⟩ := List.mem_filter.1 he
    have hid : e.1 = a := by simpa [myAssignment] using hid
    have hmem := (List.mem_filter.1 (List.mem_reverse.1 he)).1
    have heq : e.2 = assignment := by
      have hget := Table.get_of_mem (k := e.1) (r := e.2) hmem
      rw [hid, ha] at hget
      exact (Option.some.inj hget).symm
    rw [hid, heq]
    exact myAssignment_alike h hoff user.sub

theorem getSubmission_alike (h : Alike a db₁ db₂) (ha : db₁.assignments.get a = some assignment)
    (hoff : assignment.showAiToStudents = false) {user : JwtPayload} {x : SubmissionId} {row : CodingSubmission}
    (hrow : db₁.submissions.get x = some row) (hid : row.assignmentId = a) (howner : row.studentId = user.sub)
    (manages : Result Unit) : getSubmission db₁ user x manages = getSubmission db₂ user x manages := by
  have hget := h.get_eq x
  rw [hrow, Option.map_some] at hget
  obtain ⟨row₂, hrow₂, heq⟩ := Option.map_eq_some_iff.1 hget.symm
  have hid₂ : row₂.assignmentId = a := by
    rw [← hideRow_assignmentId (a := a), heq, hideRow_assignmentId, hid]
  have howner₂ : row₂.studentId = user.sub := by
    rw [← hideRow_studentId (a := a), heq, hideRow_studentId, howner]
  rw [hideRow_of_eq hid, hideRow_of_eq hid₂] at heq
  have hfeedback : feedbackOf db₁ x = feedbackOf db₂ x := by
    unfold feedbackOf
    rw [h.feedback]
  have hdetail : forStudent (submissionDetail db₁ true x row) false true =
      forStudent (submissionDetail db₂ true x row₂) false true := by
    calc AiRedactable.withoutAi (submissionDetail db₁ true x row)
      _ = AiRedactable.withoutAi (submissionDetail db₁ true x { row with provisionalScore := none }) := rfl
      _ = AiRedactable.withoutAi (submissionDetail db₁ true x { row₂ with provisionalScore := none }) := by rw [heq]
      _ = AiRedactable.withoutAi (submissionDetail db₁ true x row₂) := rfl
      _ = AiRedactable.withoutAi (submissionDetail db₂ true x row₂) := by
        simp only [AiRedactable.withoutAi, submissionDetail, h.files, h.students, h.assignments, hfeedback]
  unfold getSubmission
  rw [hrow, hrow₂, ← h.assignments]
  simp only [found, bind, Except.bind, pure, Except.pure, hid, hid₂, howner, howner₂, ha, hoff, beq_self_eq_true,
    Bool.not_true, Bool.false_eq_true, ite_false, Option.any_some, hdetail]

end Paths

end Livetich.Coding
