/-
The statistics of students: `aggregateStudentStats` over the programs that a scope takes in, for an organization
(`OrganizationsService.studentStats`) and for an instructor (`CoursesService.instructorStudentStats`).

The attendances are those of all classes in scope, also of one that is not over, while only classes that have ended
count as held; work is counted as handed in also in a program that the student has left; and answers are counted by the
class of the quiz, which the bank of a program and the quiz of a section do not have.
-/
import Mathlib.Algebra.GroupWithZero.Nat
import Livetich.Lib.Grouped
import Livetich.Performance.Records

namespace Livetich.Performance

open TransSys Livetich.Lib Livetich.Points
open Auth (UserStatus)
open Quiz (QuestionId QuizAnswer given)

/-! ## The calls -/

structure StudentStat where
  points : Int
  /-- Chat messages and answers in quizzes and at the buzzer. -/
  interactions : Nat
  /-- Live sessions joined. -/
  attended : Nat
  /-- Sessions that have ended, the denominator of the attendance. -/
  held : Nat
  /-- Submissions made. -/
  assignmentsSubmitted : Nat
  /-- Assignments across the programs that the student is enrolled in. -/
  assignmentsTotal : Nat
  deriving DecidableEq

structure Student where
  id : UserId
  enrolledCourseIds : List CourseId
  deriving DecidableEq

namespace State

variable (s : State) (studentIds : List UserId) (courseWhere : CourseId → Bool)

/-! ### The queries -/

def sessionWhere (sessionId : SessionId) : Bool := (s.sessions.get sessionId).any courseWhere

def pointRows : List Award := s.ledger.filter fun p => studentIds.contains p.studentId && courseWhere p.courseId

def chatRows : List (SessionId × UserId) :=
  s.messages.filter fun m => studentIds.contains m.2 && s.sessionWhere courseWhere m.1

/-- `question: { quiz: { session: { course } } }`. -/
def answerWhere (questionId : QuestionId) : Bool :=
  ((s.questions.get questionId).bind fun q => (s.quizzes.get q.quizId).bind (·.sessionId)).any
    (s.sessionWhere courseWhere)

def answerRows : List QuizAnswer :=
  s.answers.filter fun a => studentIds.contains a.studentId && s.answerWhere courseWhere a.questionId

def attendanceRows : List (SessionId × UserId) :=
  s.attendances.filter fun a => studentIds.contains a.2 && s.sessionWhere courseWhere a.1

def heldRows : List (SessionId × CourseId) :=
  s.sessions.entries.filter fun e => s.statuses e.1 == .ended && courseWhere e.2

def submissionRows : List (AssignmentId × UserId) :=
  s.submissions.filter fun r => studentIds.contains r.2 && (s.assignments.get r.1).any courseWhere

def assignmentRows : List (AssignmentId × CourseId) := s.assignments.entries.filter fun e => courseWhere e.2

end State

def StudentStat.zero : StudentStat := ⟨0, 0, 0, 0, 0, 0⟩

def zeros : List UserId → Table UserId StudentStat := List.foldl (fun t id => t.insert id .zero) .empty

/-- The assignments that a student is expected to do. -/
def total (perCourse : List (CourseId × List (AssignmentId × CourseId))) (courseIds : List CourseId) : Nat :=
  (courseIds.map fun c => ((perCourse.find? (·.1 == c)).map (·.2.length)).getD 0).sum

def aggregateStudentStats (s : State) (students : List Student) (courseWhere : CourseId → Bool) :
    Table UserId StudentStat :=
  if students = [] then .empty
  else
    let studentIds := students.map (·.id)
    let stats := (zeros studentIds).modifyAll (·.1) (fun g r => { r with points := (g.2.map (·.delta)).sum })
      (groupBy (·.studentId) (s.pointRows studentIds courseWhere))
    let stats := stats.modifyAll (·.1) (fun g r => { r with interactions := r.interactions + g.2.length })
      (groupBy (·.2) (s.chatRows studentIds courseWhere))
    let stats := stats.modifyAll (·.1) (fun g r => { r with interactions := r.interactions + g.2.length })
      (groupBy (·.studentId) (s.answerRows studentIds courseWhere))
    let stats := stats.modifyAll (·.1) (fun g r => { r with attended := g.2.length })
      (groupBy (·.2) (s.attendanceRows studentIds courseWhere))
    let stats := stats.map fun r => { r with held := (s.heldRows courseWhere).length }
    let stats := stats.modifyAll (·.1) (fun g r => { r with assignmentsSubmitted := g.2.length })
      (groupBy (·.2) (s.submissionRows studentIds courseWhere))
    let perCourse := groupBy (·.2) (s.assignmentRows courseWhere)
    stats.modifyAll (·.id) (fun x r => { r with assignmentsTotal := total perCourse x.enrolledCourseIds }) students

structure StudentRow where
  id : UserId
  name : String
  email : String
  status : UserStatus
  enrolledCourseIds : List CourseId
  stat : Option StudentStat
  deriving DecidableEq

structure InstructorStudentRow where
  id : UserId
  name : String
  email : String
  enrolledCourseIds : List CourseId
  stat : Option StudentStat
  deriving DecidableEq

/-- `orderBy: { createdAt: 'asc' }`. -/
def byCreation (rows : List (UserId × User)) : List (UserId × User) :=
  rows.mergeSort fun a b => a.2.createdAt ≤ b.2.createdAt

def State.enrollments (s : State) (studentId : UserId) : List CourseId :=
  (s.enrolled.filter (·.2 == studentId)).map (·.1)

/-- The programs of an organization, or one of them. -/
def State.ofOrganization (s : State) (orgId : OrganizationId) (courseId : Option CourseId) (c : CourseId) : Bool :=
  s.courses.contains c && s.organizations c == some orgId && (given courseId).all (· == c)

def studentStats (s : State) (orgId : OrganizationId) (courseId : Option CourseId) : List StudentRow :=
  let students := byCreation (s.users.entries.filter fun e =>
    (s.memberships.get (e.1, orgId)).any (fun m => m.role == .student && m.status == .active) &&
      (given courseId).all (s.isEnrolled e.1))
  let withEnrollments := students.map fun e => (⟨e.1, s.enrollments e.1⟩ : Student)
  let stats := aggregateStudentStats s withEnrollments (s.ofOrganization orgId courseId)
  students.map fun e => ⟨e.1, e.2.name, e.2.email, e.2.status, s.enrollments e.1, stats.get e.1⟩

/-- The programs of an instructor, or one of them. -/
def State.ofInstructor (s : State) (instructorId : UserId) (courseId : Option CourseId) (c : CourseId) : Bool :=
  s.courses.contains c && s.instructors c == some instructorId && (given courseId).all (· == c)

def instructorStudentStats (s : State) (instructorId : UserId) (courseId : Option CourseId) :
    List InstructorStudentRow :=
  let courseWhere := s.ofInstructor instructorId courseId
  let students := byCreation (s.users.entries.filter fun e =>
    e.2.role == .student && (s.enrollments e.1).any courseWhere)
  let taught (id : UserId) : List CourseId := (s.enrollments id).filter (s.ofInstructor instructorId none)
  let withEnrollments := students.map fun e => (⟨e.1, taught e.1⟩ : Student)
  let stats := aggregateStudentStats s withEnrollments courseWhere
  students.map fun e => ⟨e.1, e.2.name, e.2.email, taught e.1, stats.get e.1⟩

/-! ## What is counted -/

/-- A student's own rows. -/
structure Rows (s : State) (courseWhere : CourseId → Bool) (x : Student) (stat : StudentStat) : Prop where
  points : stat.points = ((s.pointRows [x.id] courseWhere).map (·.delta)).sum
  interactions : stat.interactions = (s.chatRows [x.id] courseWhere).length + (s.answerRows [x.id] courseWhere).length
  attended : stat.attended = (s.attendanceRows [x.id] courseWhere).length
  held : stat.held = (s.heldRows courseWhere).length
  submitted : stat.assignmentsSubmitted = (s.submissionRows [x.id] courseWhere).length
  total : stat.assignmentsTotal =
    (x.enrolledCourseIds.map fun c => ((s.assignmentRows courseWhere).filter (·.2 = c)).length).sum

theorem get_zeros : ∀ {ids : List UserId} {t : Table UserId StudentStat} {id : UserId},
    (∀ r, t.get id = some r → r = .zero) → (id ∈ ids ∨ t.get id = some .zero) →
    (ids.foldl (fun t id => t.insert id .zero) t).get id = some .zero
  | [], t, id, _, h => h.resolve_left List.not_mem_nil
  | x :: ids, t, id, hzero, h => by
    have hinsert : ∀ r, (t.insert x .zero).get id = some r → r = .zero := by
      intro r hr
      rcases Table.get_insert_cases hr with hr | ⟨-, rfl⟩
      · exact hzero r hr
      · rfl
    refine get_zeros (t := t.insert x .zero) hinsert ?_
    rcases h with h | h
    · rcases List.mem_cons.1 h with rfl | h
      · right
        cases hx : t.get id with
        | none => rw [Table.get_insert hx, if_pos rfl]
        | some r =>
          rw [hzero r hx] at hx
          exact Table.get_insert_of_some hx _ _
      · exact .inl h
    · exact .inr (Table.get_insert_of_some h _ _)

/-- Of the rows of all students, those of one are her own. -/
theorem filter_own {α : Type} {rows : List α} {key : α → UserId} {ids : List UserId} {p : α → Bool} {id : UserId}
    (h : id ∈ ids) : (rows.filter fun r => ids.contains (key r) && p r).filter (key · = id) =
      rows.filter fun r => [id].contains (key r) && p r := by
  rw [List.filter_filter]
  refine List.filter_congr fun r _ => ?_
  by_cases hr : key r = id
  · subst hr
    simp [h]
  · simp [hr]

theorem aggregate_rows (s : State) {students : List Student} (courseWhere : CourseId → Bool)
    (hnodup : (students.map (·.id)).Nodup) {x : Student} (hx : x ∈ students) :
    ∃ stat, (aggregateStudentStats s students courseWhere).get x.id = some stat ∧ Rows s courseWhere x stat := by
  have hid : x.id ∈ students.map (·.id) := List.mem_map_of_mem hx
  have hsome : students ≠ [] := List.ne_nil_of_mem hx
  have hzero : (zeros (students.map (·.id))).get x.id = some .zero :=
    get_zeros (by simp [Table.get, Table.empty]) (.inl hid)
  have hpoints := get_modifyAll_groupBy hzero (f := fun g r => { r with points := (g.map (·.delta)).sum }) rfl
    (·.studentId) (s.pointRows (students.map (·.id)) courseWhere)
  have hchats :=
    get_modifyAll_groupBy hpoints (f := fun g r => { r with interactions := r.interactions + g.length }) rfl
    (·.2) (s.chatRows (students.map (·.id)) courseWhere)
  have hanswers :=
    get_modifyAll_groupBy hchats (f := fun g r => { r with interactions := r.interactions + g.length }) rfl
    (·.studentId) (s.answerRows (students.map (·.id)) courseWhere)
  have hattended := get_modifyAll_groupBy hanswers (f := fun g r => { r with attended := g.length }) rfl
    (·.2) (s.attendanceRows (students.map (·.id)) courseWhere)
  have hheld := congrArg (Option.map fun r => { r with held := (s.heldRows courseWhere).length }) hattended
  rw [← Table.get_map] at hheld
  have hsubmitted := get_modifyAll_groupBy hheld (f := fun g r => { r with assignmentsSubmitted := g.length }) rfl
    (·.2) (s.submissionRows (students.map (·.id)) courseWhere)
  unfold aggregateStudentStats
  rw [if_neg hsome]
  refine ⟨_, get_modifyAll_of_mem hnodup hx hsubmitted, ?_⟩
  refine ⟨?_, ?_, ?_, rfl, ?_, ?_⟩
  · show (((s.pointRows (students.map (·.id)) courseWhere).filter (·.studentId = x.id)).map (·.delta)).sum = _
    rw [State.pointRows, filter_own hid]
    rfl
  · show 0 + ((s.chatRows (students.map (·.id)) courseWhere).filter (·.2 = x.id)).length +
      ((s.answerRows (students.map (·.id)) courseWhere).filter (·.studentId = x.id)).length = _
    rw [State.chatRows, State.answerRows, filter_own hid, filter_own hid, Nat.zero_add]
    rfl
  · show ((s.attendanceRows (students.map (·.id)) courseWhere).filter (·.2 = x.id)).length = _
    rw [State.attendanceRows, filter_own hid]
    rfl
  · show ((s.submissionRows (students.map (·.id)) courseWhere).filter (·.2 = x.id)).length = _
    rw [State.submissionRows, filter_own hid]
    rfl
  · show total _ _ = _
    unfold total
    simp only [length_groupBy]

/-! ## What makes sense -/

/-- The program of a quiz, as `quiz:answer` finds it. -/
def State.courseOf (s : State) (quiz : Quiz.Quiz) : Option CourseId :=
  quiz.courseId.or ((quiz.sessionId.bind s.sessions.get).or (quiz.sectionId.bind s.sections.get))

/-- An answer in a quiz of a program in scope. -/
def State.inScope (s : State) (courseWhere : CourseId → Bool) (a : QuizAnswer) : Bool :=
  (((s.questions.get a.questionId).bind fun q => s.quizzes.get q.quizId).bind s.courseOf).any courseWhere

/-- The ratios of a student make sense: no numerator is above its denominator, the numerators count only sessions and
assignments that the denominators count, and every answer given in scope is counted. -/
structure MakesSense (s : State) (courseWhere : CourseId → Bool) (x : Student) (stat : StudentStat) : Prop where
  attended : stat.attended ≤ stat.held
  submitted : stat.assignmentsSubmitted ≤ stat.assignmentsTotal
  sessions : ∀ a ∈ s.attendanceRows [x.id] courseWhere, ∃ e ∈ s.heldRows courseWhere, e.1 = a.1
  assignments : ∀ r ∈ s.submissionRows [x.id] courseWhere,
    ∃ e ∈ s.assignmentRows courseWhere, e.1 = r.1 ∧ e.2 ∈ x.enrolledCourseIds
  answers : ∀ a ∈ s.answers, a.studentId = x.id → s.inScope courseWhere a = true → a ∈ s.answerRows [x.id] courseWhere

/-- The classes in scope that the student has joined are over, she has left no program in scope after handing work in,
and no answer of hers in scope was to a quiz without a class. -/
structure Settled (s : State) (courseWhere : CourseId → Bool) (studentId : UserId) : Prop where
  joined : ∀ a ∈ s.attendances, a.2 = studentId → s.sessionWhere courseWhere a.1 = true → s.statuses a.1 = .ended
  handedIn : ∀ r ∈ s.submissions, r.2 = studentId → ∀ c, s.assignments.get r.1 = some c → courseWhere c = true →
    s.isEnrolled studentId c = true
  answered : ∀ a ∈ s.answers, a.studentId = studentId → s.inScope courseWhere a = true →
    ∀ q quiz, s.questions.get a.questionId = some q → s.quizzes.get q.quizId = some quiz → quiz.sessionId ≠ none

section MakesSense

variable {s : State} {courseWhere : CourseId → Bool} {x : Student} {stat : StudentStat}

theorem mem_attendanceRows {a : SessionId × UserId} : a ∈ s.attendanceRows [x.id] courseWhere ↔
    a ∈ s.attendances ∧ a.2 = x.id ∧ s.sessionWhere courseWhere a.1 = true := by
  unfold State.attendanceRows
  rw [List.mem_filter, Bool.and_eq_true, List.contains_iff_mem, List.mem_singleton]

theorem mem_submissionRows {r : AssignmentId × UserId} : r ∈ s.submissionRows [x.id] courseWhere ↔
    r ∈ s.submissions ∧ r.2 = x.id ∧ (s.assignments.get r.1).any courseWhere = true := by
  unfold State.submissionRows
  rw [List.mem_filter, Bool.and_eq_true, List.contains_iff_mem, List.mem_singleton]

theorem mem_answerRows {a : QuizAnswer} : a ∈ s.answerRows [x.id] courseWhere ↔
    a ∈ s.answers ∧ a.studentId = x.id ∧ s.answerWhere courseWhere a.questionId = true := by
  unfold State.answerRows
  rw [List.mem_filter, Bool.and_eq_true, List.contains_iff_mem, List.mem_singleton]

/-- A row of a student counts once for its session or its assignment. -/
theorem length_own_le {α : Type} [DecidableEq α] {rows : List (α × UserId)} {id : UserId} {counted : List α}
    (hnodup : rows.Nodup) (hown : ∀ r ∈ rows, r.2 = id) (hcounted : ∀ r ∈ rows, r.1 ∈ counted) :
    rows.length ≤ counted.length := by
  have hkeys : (rows.map (·.1)).Nodup := by
    refine List.Nodup.map_on (fun r hr r' hr' heq => Prod.ext heq ?_) hnodup
    rw [hown r hr, hown r' hr']
  have hsubset : rows.map (·.1) ⊆ counted := by
    intro k hk
    obtain ⟨r, hr, rfl⟩ := List.mem_map.1 hk
    exact hcounted r hr
  have hle := (List.subperm_of_subset hkeys hsubset).length_le
  rwa [List.length_map] at hle

/-- An answer counts where its quiz has a class; then the class is of the program of the quiz. -/
theorem answerWhere_iff (hs : Sound s) {a : QuizAnswer} (hscope : s.inScope courseWhere a = true) :
    s.answerWhere courseWhere a.questionId = true ↔
      ∀ q quiz, s.questions.get a.questionId = some q → s.quizzes.get q.quizId = some quiz → quiz.sessionId ≠ none := by
  obtain ⟨c, hc, hcourse⟩ := (Option.any_eq_true _ _).1 hscope
  obtain ⟨quiz, hquiz, hcourseOf⟩ := Option.bind_eq_some_iff.1 hc
  obtain ⟨q, hq, hquiz⟩ := Option.bind_eq_some_iff.1 hquiz
  obtain ⟨-, d, howned⟩ := hs.quizzes.quizzes q.quizId quiz hquiz
  have hd : d = c := by
    rw [State.courseOf, howned.course, Option.some_or] at hcourseOf
    exact Option.some.inj hcourseOf
  subst hd
  unfold State.answerWhere
  rw [hq, Option.bind_some, hquiz, Option.bind_some]
  constructor
  · rintro hany q' quiz' hq' hquiz' hnone
    cases hq'
    rw [hquiz] at hquiz'
    cases hquiz'
    rw [hnone] at hany
    cases hany
  · intro hsome
    obtain ⟨sessionId, hsession⟩ := Option.ne_none_iff_exists'.1 (hsome q quiz rfl hquiz)
    rw [hsession, Option.any_some, State.sessionWhere, (howned.session sessionId hsession).2, Option.any_some]
    exact hcourse

theorem settled_of_makesSense (hs : Sound s)
    (henrolled : ∀ c, courseWhere c = true → (c ∈ x.enrolledCourseIds ↔ s.isEnrolled x.id c = true))
    (h : MakesSense s courseWhere x stat) : Settled s courseWhere x.id := by
  obtain ⟨-, -, hsessions, hassignments, hanswers⟩ := h
  refine ⟨fun a ha hown hwhere => ?_, fun r hr hown c hc hwhere => ?_, fun a ha hown hscope => ?_⟩
  · obtain ⟨e, he, heq⟩ := hsessions a (mem_attendanceRows.2 ⟨ha, hown, hwhere⟩)
    have hended := (Bool.and_eq_true _ _ ▸ (List.mem_filter.1 he).2).1
    rw [← heq]
    exact beq_iff_eq.1 hended
  · obtain ⟨e, he, heq, hmem⟩ := hassignments r (mem_submissionRows.2 ⟨hr, hown, by rw [hc]; exact hwhere⟩)
    obtain ⟨hentry, hscope⟩ := List.mem_filter.1 he
    have hget : s.assignments.get e.1 = some e.2 := Table.get_of_mem hentry
    rw [heq, hc, Option.some.injEq] at hget
    rw [hget]
    exact (henrolled e.2 hscope).1 hmem
  · exact (answerWhere_iff hs hscope).1 (mem_answerRows.1 (hanswers a ha hown hscope)).2.2

theorem makesSense_of_settled (hs : Sound s) (hrows : Rows s courseWhere x stat)
    (henrolled : ∀ c, courseWhere c = true → (c ∈ x.enrolledCourseIds ↔ s.isEnrolled x.id c = true))
    (h : Settled s courseWhere x.id) : MakesSense s courseWhere x stat := by
  obtain ⟨hjoined, hhandedIn, hanswered⟩ := h
  have hsessions : ∀ a ∈ s.attendanceRows [x.id] courseWhere, ∃ e ∈ s.heldRows courseWhere, e.1 = a.1 := by
    intro a ha
    obtain ⟨hmem, hown, hwhere⟩ := mem_attendanceRows.1 ha
    obtain ⟨c, hc, hcourse⟩ := (Option.any_eq_true _ _).1 hwhere
    refine ⟨(a.1, c), List.mem_filter.2 ⟨Table.mem_of_get hc, ?_⟩, rfl⟩
    rw [hjoined a hmem hown hwhere, hcourse]
    rfl
  have hassignments : ∀ r ∈ s.submissionRows [x.id] courseWhere,
      ∃ e ∈ s.assignmentRows courseWhere, e.1 = r.1 ∧ e.2 ∈ x.enrolledCourseIds := by
    intro r hr
    obtain ⟨hmem, hown, hwhere⟩ := mem_submissionRows.1 hr
    obtain ⟨c, hc, hcourse⟩ := (Option.any_eq_true _ _).1 hwhere
    refine ⟨(r.1, c), List.mem_filter.2 ⟨Table.mem_of_get hc, hcourse⟩, rfl, ?_⟩
    exact (henrolled c hcourse).2 (hhandedIn r hmem hown c hc hcourse)
  refine ⟨?_, ?_, hsessions, hassignments, fun a ha hown hscope => ?_⟩
  -- A student joins a class once, and each of those she has joined is held.
  · have hle : (s.attendanceRows [x.id] courseWhere).length ≤ ((s.heldRows courseWhere).map (·.1)).length := by
      refine length_own_le (hs.attendances.filter _) (fun a ha => (mem_attendanceRows.1 ha).2.1) fun a ha => ?_
      obtain ⟨e, he, heq⟩ := hsessions a ha
      exact List.mem_map.2 ⟨e, he, heq⟩
    rw [List.length_map] at hle
    rw [hrows.attended, hrows.held]
    exact hle
  -- She hands in one work for an assignment, and each is of a program that she is still enrolled in.
  · have hsum : stat.assignmentsTotal = (x.enrolledCourseIds.flatMap fun c =>
        ((s.assignmentRows courseWhere).filter (·.2 = c)).map (·.1)).length := by
      rw [hrows.total, List.length_flatMap]
      simp only [List.length_map]
    rw [hrows.submitted, hsum]
    refine length_own_le (hs.submissions.filter _) (fun r hr => (mem_submissionRows.1 hr).2.1) fun r hr => ?_
    obtain ⟨e, he, heq, hmem⟩ := hassignments r hr
    exact List.mem_flatMap.2 ⟨e.2, hmem, List.mem_map.2 ⟨e, List.mem_filter.2 ⟨he, by simp⟩, heq⟩⟩
  · exact mem_answerRows.2 ⟨ha, hown, (answerWhere_iff hs hscope).2 (hanswered a ha hown hscope)⟩

theorem makesSense_iff (hs : Sound s) (hrows : Rows s courseWhere x stat)
    (henrolled : ∀ c, courseWhere c = true → (c ∈ x.enrolledCourseIds ↔ s.isEnrolled x.id c = true)) :
    MakesSense s courseWhere x stat ↔ Settled s courseWhere x.id :=
  ⟨settled_of_makesSense hs henrolled, makesSense_of_settled hs hrows henrolled⟩

end MakesSense

/-! ## The two callers -/

section Callers

variable {s : State}

theorem byCreation_nodup (t : Table UserId User) (p : UserId × User → Bool) :
    ((byCreation (t.entries.filter p)).map (·.1)).Nodup := by
  have hperm : (byCreation (t.entries.filter p)).Perm (t.entries.filter p) := List.mergeSort_perm _ _
  exact (hperm.map (·.1)).nodup_iff.2 (t.nodup.sublist (List.filter_sublist.map _))

theorem mem_enrollments {studentId : UserId} {c : CourseId} :
    c ∈ s.enrollments studentId ↔ s.isEnrolled studentId c = true := by
  unfold State.enrollments State.isEnrolled
  rw [List.contains_iff_mem, List.mem_map]
  constructor
  · rintro ⟨⟨c, id⟩, hmem, rfl⟩
    obtain ⟨hmem, hid⟩ := List.mem_filter.1 hmem
    rw [beq_iff_eq] at hid
    rwa [← hid]
  · exact fun hmem => ⟨(c, studentId), List.mem_filter.2 ⟨hmem, beq_self_eq_true _⟩, rfl⟩

theorem studentStats_row (hs : Sound s) {orgId : OrganizationId} {courseId : Option CourseId} {row : StudentRow}
    (h : row ∈ studentStats s orgId courseId) : ∃ stat, row.stat = some stat ∧
      Rows s (s.ofOrganization orgId courseId) ⟨row.id, row.enrolledCourseIds⟩ stat ∧
      (MakesSense s (s.ofOrganization orgId courseId) ⟨row.id, row.enrolledCourseIds⟩ stat ↔
        Settled s (s.ofOrganization orgId courseId) row.id) := by
  obtain ⟨e, he, rfl⟩ := List.mem_map.1 h
  have hnodup := byCreation_nodup s.users fun e =>
    (s.memberships.get (e.1, orgId)).any (fun m => m.role == .student && m.status == .active) &&
      (given courseId).all (s.isEnrolled e.1)
  obtain ⟨stat, hget, hrows⟩ := aggregate_rows s (s.ofOrganization orgId courseId) (by rwa [List.map_map])
    (List.mem_map_of_mem (f := fun e => (⟨e.1, s.enrollments e.1⟩ : Student)) he)
  exact ⟨stat, hget, hrows, makesSense_iff hs hrows fun c _ => mem_enrollments⟩

/-- A program in an instructor's scope is one of the instructor's. -/
theorem ofInstructor_all {instructorId : UserId} {courseId : Option CourseId} {c : CourseId}
    (h : s.ofInstructor instructorId courseId c = true) : s.ofInstructor instructorId none c = true := by
  unfold State.ofInstructor at h ⊢
  rw [Bool.and_eq_true] at h
  rw [h.1]
  rfl

theorem instructorStudentStats_row (hs : Sound s) {instructorId : UserId} {courseId : Option CourseId}
    {row : InstructorStudentRow} (h : row ∈ instructorStudentStats s instructorId courseId) : ∃ stat,
      row.stat = some stat ∧ Rows s (s.ofInstructor instructorId courseId) ⟨row.id, row.enrolledCourseIds⟩ stat ∧
      (MakesSense s (s.ofInstructor instructorId courseId) ⟨row.id, row.enrolledCourseIds⟩ stat ↔
        Settled s (s.ofInstructor instructorId courseId) row.id) := by
  obtain ⟨e, he, rfl⟩ := List.mem_map.1 h
  have hnodup := byCreation_nodup s.users fun e =>
    e.2.role == .student && (s.enrollments e.1).any (s.ofInstructor instructorId courseId)
  obtain ⟨stat, hget, hrows⟩ := aggregate_rows s (s.ofInstructor instructorId courseId) (by rwa [List.map_map])
    (List.mem_map_of_mem
      (f := fun e => (⟨e.1, (s.enrollments e.1).filter (s.ofInstructor instructorId none)⟩ : Student)) he)
  refine ⟨stat, hget, hrows, makesSense_iff hs hrows fun c hc => ?_⟩
  rw [List.mem_filter, mem_enrollments]
  exact and_iff_left (ofInstructor_all hc)

end Callers

/-- In every database that the API can reach, and for every organization and every instructor, as a whole or for one
program: the numbers of a student are those of her own rows, and they make sense just when the classes in scope that
she has joined are over, she has left no program in scope after handing work in, and no answer of hers in scope was to
a quiz without a class. -/
theorem ratios_iff {es : List Event} {s : State} (h : run step init es = some s) (courseId : Option CourseId) :
    (∀ orgId, ∀ row ∈ studentStats s orgId courseId, ∃ stat, row.stat = some stat ∧
      Rows s (s.ofOrganization orgId courseId) ⟨row.id, row.enrolledCourseIds⟩ stat ∧
      (MakesSense s (s.ofOrganization orgId courseId) ⟨row.id, row.enrolledCourseIds⟩ stat ↔
        Settled s (s.ofOrganization orgId courseId) row.id)) ∧
    ∀ instructorId, ∀ row ∈ instructorStudentStats s instructorId courseId, ∃ stat, row.stat = some stat ∧
      Rows s (s.ofInstructor instructorId courseId) ⟨row.id, row.enrolledCourseIds⟩ stat ∧
      (MakesSense s (s.ofInstructor instructorId courseId) ⟨row.id, row.enrolledCourseIds⟩ stat ↔
        Settled s (s.ofInstructor instructorId courseId) row.id) :=
  ⟨fun _ _ hrow => studentStats_row (sound_run h) hrow, fun _ _ hrow => instructorStudentStats_row (sound_run h) hrow⟩

namespace Example

def amina : User := ⟨"Amina", "amina@example.com", .student, .active, 0⟩

def yusuf : JwtPayload := ⟨"yusuf", .instructor, "Yusuf", none, none, none⟩

def question : Quiz.CreateQuizQuestionDto := ⟨"2 + 2?", ["3", "4"], 1, none, none⟩

/-- Amina is enrolled in two programs of the company; the first one has a class. -/
def joined : List Event :=
  [.user "amina" amina, .member "amina" "company" ⟨.student, .active⟩, .quiz (.createCourse "first"),
    .quiz (.createCourse "second"), .own "first" "company", .own "second" "company",
    .quiz (.createSession "class" "first"),
    .quiz (.change [("first", "amina"), ("second", "amina")] [("first", "yusuf")])]

/-- She hands in work in the second program and leaves it, and answers a question of the bank in a class that is on. -/
def unsettled : List Event :=
  joined ++ [.createAssignment "essay" "second", .submit "amina" "essay",
    .quiz (.change [("first", "amina")] [("first", "yusuf")]),
    .quiz (.create yusuf ⟨none, none, some "first", .buzzer, [question]⟩), .start "class", .join "amina" "class",
    .buzz "amina" "class" 1 1]

/-- She joins a class, which ends. -/
def settled : List Event := joined ++ [.start "class", .join "amina" "class", .finish "class"]

end Example

open Example in
/-- She was in one class of none, handed in one of no assignments, and her answer is not counted. -/
theorem more_than_all : ∃ s, run step init unsettled = some s ∧ ∃ row ∈ studentStats s "company" none,
    row.stat = some ⟨0, 0, 1, 0, 1, 0⟩ ∧ (∃ a ∈ s.answers, a.studentId = row.id ∧
      s.inScope (s.ofOrganization "company" none) a = true) ∧
    ¬MakesSense s (s.ofOrganization "company" none) ⟨row.id, row.enrolledCourseIds⟩ ⟨0, 0, 1, 0, 1, 0⟩ := by
  have hrun : (run step init unsettled).map (fun s => (studentStats s "company" none,
      s.answers.map fun a => (a.studentId, s.inScope (s.ofOrganization "company" none) a))) =
      some ([⟨"amina", "Amina", "amina@example.com", .active, ["first"], some ⟨0, 0, 1, 0, 1, 0⟩⟩],
        [("amina", true)]) := by
    decide +kernel
  obtain ⟨s, hs, hfacts⟩ := Option.map_eq_some_iff.1 hrun
  rw [Prod.mk.injEq] at hfacts
  obtain ⟨hrows, hanswers⟩ := hfacts
  have hanswer : ("amina", true) ∈ s.answers.map fun a =>
      (a.studentId, s.inScope (s.ofOrganization "company" none) a) := by
    rw [hanswers]
    exact List.mem_singleton_self _
  obtain ⟨a, ha, heq⟩ := List.mem_map.1 hanswer
  rw [Prod.mk.injEq] at heq
  refine ⟨s, hs, _, hrows ▸ List.mem_singleton_self _, rfl, ⟨a, ha, heq.1, heq.2⟩, fun hsense => ?_⟩
  exact absurd hsense.attended (by decide)

open Example in
/-- Once the class is over, her attendance is one of one. -/
theorem all_of_all : ∃ s, run step init settled = some s ∧ ∀ row ∈ studentStats s "company" none,
    row.stat = some ⟨0, 0, 1, 1, 0, 0⟩ ∧
    (MakesSense s (s.ofOrganization "company" none) ⟨row.id, row.enrolledCourseIds⟩ ⟨0, 0, 1, 1, 0, 0⟩ ↔
      Settled s (s.ofOrganization "company" none) row.id) := by
  have hrun : (run step init settled).map (fun s => studentStats s "company" none) =
      some [⟨"amina", "Amina", "amina@example.com", .active, ["first", "second"], some ⟨0, 0, 1, 1, 0, 0⟩⟩] := by
    decide +kernel
  obtain ⟨s, hs, hrows⟩ := Option.map_eq_some_iff.1 hrun
  refine ⟨s, hs, fun row hrow => ?_⟩
  obtain ⟨stat, hstat, -, hiff⟩ := (ratios_iff hs none).1 "company" row hrow
  rw [hrows, List.mem_singleton] at hrow
  have hvalue : row.stat = some ⟨0, 0, 1, 1, 0, 0⟩ := by rw [hrow]
  rw [hvalue, Option.some.injEq] at hstat
  rw [← hstat] at hiff
  exact ⟨hvalue, hiff⟩

end Livetich.Performance
