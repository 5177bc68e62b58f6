/-
Groups of students: `GroupsService.create`, `setMembers` and `remove`, `CoursesService.enroll` and `unenroll`, and
`AssignmentsService.create`, as steps between database calls, and the three readers of an assignment's audience:
`listSubmissions`, `courseTracking` and the mail about a new assignment.

A call of a manager begins here once `assertCanManageCourse` has let it through, and a call that fails or is refused
at a step ends there. A transaction is one step. What `unenroll` does after its `deleteMany` writes none of the tables.
-/
import Livetich.Assignments.Grading
import Livetich.Auth.Model
import Livetich.Lib.Checked

namespace Livetich.Assignments.Rosters

open TransSys Livetich.Lib

/-! ## Calls between their awaits -/

inductive Task
  | createGroup (courseId : CourseId)
  /-- `remove` looks the group up in the course. -/
  | findRemoved (courseId : CourseId) (groupId : GroupId)
  /-- The transaction of `remove`. -/
  | remove (groupId : GroupId)
  /-- `setMembers` looks the group up in the course. -/
  | findGroup (courseId : CourseId) (groupId : GroupId) (studentIds : List UserId)
  | findEnrolled (courseId : CourseId) (groupId : GroupId) (studentIds : List UserId)
  /-- The transaction of `setMembers`. -/
  | setMembers (groupId : GroupId) (valid : List UserId)
  | enroll (courseId : CourseId) (studentId : UserId)
  | unenroll (courseId : CourseId) (studentId : UserId)
  /-- `create` looks the group of the assignment up in the course. -/
  | findTarget (courseId : CourseId) (groupId : GroupId) (maxPoints : Option Int)
  | createAssignment (a : Assignment)
  deriving DecidableEq

structure State where
  /-- Unique in the pair. -/
  enrollments : List (CourseId × UserId)
  /-- The course of each group. -/
  groups : Table GroupId CourseId
  /-- Unique in the pair. -/
  members : List (GroupId × UserId)
  assignments : Table AssignmentId Assignment
  /-- The ids handed out so far; none is handed out twice. -/
  issued : List String
  tasks : Pool Task

def init : State := ⟨[], Table.empty, [], Table.empty, [], Pool.empty⟩

namespace State

/-- Task `i` goes on as `t`, or ends. -/
def goto (s : State) (i : Nat) (t : Option Task) : State := { s with tasks := s.tasks.put i t }

def group (s : State) (groupId : GroupId) : List UserId := (s.members.filter (·.1 = groupId)).map (·.2)

def classRoster (s : State) (courseId : CourseId) : List UserId :=
  (s.enrollments.filter (·.1 = courseId)).map (·.2)

/-- `setMembers`: those of `studentIds` the course has enrolled. -/
def valid (s : State) (courseId : CourseId) (studentIds : List UserId) : List UserId :=
  (s.classRoster courseId).filter (· ∈ studentIds)

/-- The transaction of `setMembers`; the foreign key refuses members of a group that is gone. -/
def setMembers (s : State) (groupId : GroupId) (valid : List UserId) : State :=
  if (s.groups.get groupId).isSome then
    { s with members := s.members.filter (·.1 ≠ groupId) ++ valid.map (groupId, ·) }
  else s

/-- The transaction of `remove`: the assignments go back to the whole class, and the members go with the group. -/
def remove (s : State) (groupId : GroupId) : State :=
  { s with
    assignments := s.assignments.map fun a => if a.groupId = some groupId then { a with groupId := none } else a
    groups := s.groups.filter fun id _ => id != groupId
    members := s.members.filter (·.1 ≠ groupId) }

/-- A new group under an id not handed out before. -/
def createGroup (s : State) (id : GroupId) (courseId : CourseId) : State :=
  { s with groups := s.groups.insert id courseId, issued := id :: s.issued }

/-- A new assignment; the foreign key refuses a group that is gone. -/
def createAssignment (s : State) (id : AssignmentId) (a : Assignment) : State :=
  if a.groupId.all fun groupId => (s.groups.get groupId).isSome then
    { s with assignments := s.assignments.insert id a, issued := id :: s.issued }
  else s

def enroll (s : State) (courseId : CourseId) (studentId : UserId) : State :=
  if (courseId, studentId) ∈ s.enrollments then s
  else { s with enrollments := s.enrollments ++ [(courseId, studentId)] }

/-- `deleteMany` of `unenroll`. -/
def unenroll (s : State) (courseId : CourseId) (studentId : UserId) : State :=
  { s with enrollments := s.enrollments.filter (· ≠ (courseId, studentId)) }

end State

/-! ## Steps -/

/-- What task `i` does when its call is answered; `id` is the id of the row it creates. -/
def resume (s : State) (i : Nat) (id : String) : Task → Option State
  | .createGroup courseId =>
    if id ∈ s.issued ∨ id = "" then none else some ((s.createGroup id courseId).goto i none)
  | .findRemoved courseId groupId =>
    some (s.goto i (if s.groups.get groupId = some courseId then some (.remove groupId) else none))
  | .remove groupId => some ((s.remove groupId).goto i none)
  | .findGroup courseId groupId studentIds =>
    some (s.goto i (if s.groups.get groupId = some courseId then some (.findEnrolled courseId groupId studentIds)
      else none))
  | .findEnrolled courseId groupId studentIds =>
    some (s.goto i (some (.setMembers groupId (s.valid courseId studentIds))))
  | .setMembers groupId valid => some ((s.setMembers groupId valid).goto i none)
  | .enroll courseId studentId => some ((s.enroll courseId studentId).goto i none)
  | .unenroll courseId studentId => some ((s.unenroll courseId studentId).goto i none)
  | .findTarget courseId groupId maxPoints =>
    some (s.goto i (if s.groups.get groupId = some courseId then
      some (.createAssignment ⟨courseId, some groupId, maxPoints⟩) else none))
  | .createAssignment a => if id ∈ s.issued then none else some ((s.createAssignment id a).goto i none)

inductive Event
  | createGroup (i : Nat) (courseId : CourseId)
  | remove (i : Nat) (courseId : CourseId) (groupId : GroupId)
  | setMembers (i : Nat) (courseId : CourseId) (groupId : GroupId) (studentIds : List UserId)
  | enroll (i : Nat) (courseId : CourseId) (studentId : UserId)
  | unenroll (i : Nat) (courseId : CourseId) (studentId : UserId)
  | createAssignment (i : Nat) (courseId : CourseId) (groupId : Option GroupId) (maxPoints : Option Int)
  /-- The pending database call of task `i` succeeds. -/
  | resume (i : Nat) (id : String)
  /-- The pending database call of task `i` fails: nothing is written and the call ends. -/
  | fail (i : Nat)

def State.begin (s : State) (i : Nat) (t : Task) : Option State :=
  if (s.tasks.get i).isSome then none else some (s.goto i (some t))

def step (s : State) : Event → Option State
  | .createGroup i courseId => s.begin i (.createGroup courseId)
  | .remove i courseId groupId => s.begin i (.findRemoved courseId groupId)
  | .setMembers i courseId groupId studentIds => s.begin i (.findGroup courseId groupId studentIds)
  | .enroll i courseId studentId => s.begin i (.enroll courseId studentId)
  | .unenroll i courseId studentId => s.begin i (.unenroll courseId studentId)
  | .createAssignment i courseId groupId maxPoints => s.begin i (match groupId with
    | some groupId =>
      -- an empty id passes the check of the group unread
      if groupId = "" then .createAssignment ⟨courseId, some groupId, maxPoints⟩
      else .findTarget courseId groupId maxPoints
    | none => .createAssignment ⟨courseId, none, maxPoints⟩)
  | .resume i id => (s.tasks.get i).bind (resume s i id)
  | .fail i => (s.tasks.get i).map fun _ => s.goto i none

/-! ## Who an assignment is for -/

/-- The gate of `submit` and `uploadSubmission`. -/
def State.assertCanSubmit (s : State) (user : UserId) (assignmentId : AssignmentId) :
    Except Auth.HttpError Assignment := do
  let a ← orThrow (s.assignments.get assignmentId) (.notFound "Assignment not found")
  ensure ((a.courseId, user) ∈ s.enrollments) (.forbidden "Not enrolled in this program")
  ensure (∀ groupId ∈ a.groupId, (groupId, user) ∈ s.members) (.forbidden "This assignment is not assigned to you")
  return a

/-- `notifyAssignmentPosted`: the enrolments the mail goes to. -/
def State.notified (s : State) (a : Assignment) : List UserId :=
  (s.classRoster a.courseId).filter fun studentId => ∀ groupId ∈ a.groupId, (groupId, studentId) ∈ s.members

/-- `enrolledCount` of `listSubmissions`, for the row `getManageable` has read. -/
def State.enrolledCount (s : State) (a : Assignment) : Nat :=
  match a.groupId with
  | some groupId => (s.members.filter (·.1 = groupId)).length
  | none => (s.enrollments.filter (·.1 = a.courseId)).length

/-- An assignment in the feed of `courseTracking`; students are named by their ids. -/
structure Tracked where
  group : Option GroupId
  audienceCount : Nat
  submittedCount : Nat
  gradedCount : Nat
  submitted : List Submission
  missing : List UserId

/-- The audience `courseTracking` takes: the members of the group joined to the row, or the class. -/
def State.audience (s : State) (a : Assignment) : List UserId :=
  match a.groupId.filter fun groupId => (s.groups.get groupId).isSome with
  | some groupId => s.group groupId
  | none => s.classRoster a.courseId

/-- `courseTracking` of one assignment, with the rows handed in for it. -/
def State.track (s : State) (a : Assignment) (submissions : List Submission) : Tracked :=
  let audience := s.audience a
  let submitted := submissions.filter (·.studentId ∈ audience)
  let missing := audience.filter (· ∉ submitted.map (·.studentId))
  { group := a.groupId.filter fun groupId => (s.groups.get groupId).isSome
    audienceCount := audience.length
    submittedCount := submitted.length
    gradedCount := (submitted.filter (·.grade.isSome)).length
    submitted, missing }

/-! ## What is said of the groups -/

/-- An assignment as it stands, or as it stood before its group was removed. -/
def State.Knows (s : State) (a : Assignment) : Prop :=
  ∀ groupId ∈ a.groupId, groupId ∈ s.issued ∧ ∀ courseId, s.groups.get groupId = some courseId → courseId = a.courseId

/-- What is reported of a group assignment: the audience counted is the enrolled students of the group, whoever has
submitted is not missing, and everybody counted can submit. -/
structure Reported (s : State) (id : AssignmentId) (a : Assignment) : Prop where
  tracked : ∀ submissions, (s.track a submissions).audienceCount = (s.notified a).length
  split : ∀ submissions : List Submission, (submissions.map (·.studentId)).Nodup →
    (s.track a submissions).submittedCount + (s.track a submissions).missing.length =
      (s.track a submissions).audienceCount
  submits : ∀ user ∈ s.audience a, s.assertCanSubmit user id = .ok a

structure InClass (s : State) : Prop where
  /-- Every member of a group of a course is enrolled in it. -/
  members : ∀ groupId studentId, (groupId, studentId) ∈ s.members →
    ∃ courseId, s.groups.get groupId = some courseId ∧ (courseId, studentId) ∈ s.enrollments
  /-- Every assignment's group belongs to its course. -/
  targets : ∀ id a groupId, s.assignments.get id = some a → a.groupId = some groupId →
    s.groups.get groupId = some a.courseId
  /-- `listSubmissions` counts the enrolled students of the group, whenever it has read the assignment. -/
  listed : ∀ a, s.Knows a → a.groupId.isSome = true → s.enrolledCount a = (s.notified a).length
  reported : ∀ id a, s.assignments.get id = some a → a.groupId.isSome = true → Reported s id a

/-- A student is unenrolled while in no group of the course, and the transaction of `setMembers` writes students who
are still enrolled. -/
def Task.stays (s : State) : Task → Bool
  | .unenroll courseId studentId =>
    s.members.all fun m => !(m.2 == studentId && s.groups.get m.1 == some courseId)
  | .setMembers groupId valid =>
    valid.all fun studentId => (s.groups.get groupId).all fun courseId => (courseId, studentId) ∈ s.enrollments
  | _ => true

def staysInClass (s : State) : Event → Bool
  | .resume i _ => (s.tasks.get i).all (·.stays s)
  | _ => true

/-! ## What a step does -/

inductive Effect (s : State) : Event → State → Prop
  | quiet {e : Event} (hok : staysInClass s e = true) : Effect s e s
  | createGroup {e : Event} (hok : staysInClass s e = true) (id : GroupId) (courseId : CourseId)
    (hfresh : id ∉ s.issued) (hid : id ≠ "") : Effect s e (s.createGroup id courseId)
  | remove {e : Event} (hok : staysInClass s e = true) (groupId : GroupId) : Effect s e (s.remove groupId)
  | enroll {e : Event} (hok : staysInClass s e = true) (courseId : CourseId) (studentId : UserId) :
    Effect s e (s.enroll courseId studentId)
  | setMembers {i : Nat} {id : String} {groupId : GroupId} {valid : List UserId}
    (htask : s.tasks.get i = some (.setMembers groupId valid)) : Effect s (.resume i id) (s.setMembers groupId valid)
  | unenroll {i : Nat} {id : String} {courseId : CourseId} {studentId : UserId}
    (htask : s.tasks.get i = some (.unenroll courseId studentId)) :
    Effect s (.resume i id) (s.unenroll courseId studentId)
  | createAssignment {i : Nat} {id : String} {a : Assignment}
    (htask : s.tasks.get i = some (.createAssignment a)) : Effect s (.resume i id) (s.createAssignment id a)

/-- What is known of a task: the members to be written are distinct, and an assignment's group is of its course. -/
def Task.Sound (s : State) : Task → Prop
  | .setMembers _ valid => valid.Nodup
  | .createAssignment a => s.Knows a ∨ a.groupId = some ""
  | _ => True

/-- What holds of the tables in every state. -/
structure Rows (s : State) : Prop where
  enrollments : s.enrollments.Nodup
  members : s.members.Nodup
  issued : ∀ groupId courseId, s.groups.get groupId = some courseId → groupId ∈ s.issued ∧ groupId ≠ ""
  /-- A member is of a group that is there. -/
  kept : ∀ groupId studentId, (groupId, studentId) ∈ s.members → ∃ courseId, s.groups.get groupId = some courseId
  targets : ∀ id a groupId, s.assignments.get id = some a → a.groupId = some groupId →
    s.groups.get groupId = some a.courseId

structure Inv (s : State) : Prop where
  rows : Rows s
  tasks : ∀ i t, s.tasks.get i = some t → t.Sound s

theorem knows_of_group {s : State} (h : Rows s) {a : Assignment}
    (hgroup : ∀ groupId ∈ a.groupId, s.groups.get groupId = some a.courseId) : s.Knows a := by
  intro groupId hg
  have hget := hgroup groupId hg
  refine ⟨(h.issued groupId a.courseId hget).1, fun courseId hc => ?_⟩
  exact Option.some.inj (hc.symm.trans hget)

/-- Of distinct pairs, those under one name differ in their second part. -/
theorem nodup_under {l : List (String × UserId)} (h : l.Nodup) (name : String) :
    ((l.filter fun e => decide (e.1 = name)).map (·.2)).Nodup := by
  refine List.Nodup.map_on ?_ (h.filter _)
  rintro ⟨c, u⟩ hx ⟨d, v⟩ hy rfl
  rw [List.mem_filter] at hx hy
  rw [Prod.mk.injEq]
  exact ⟨(of_decide_eq_true hx.2).trans (of_decide_eq_true hy.2).symm, rfl⟩

theorem nodup_classRoster {s : State} (h : s.enrollments.Nodup) (courseId : CourseId) :
    (s.classRoster courseId).Nodup :=
  nodup_under h courseId

theorem begin_cases {s s' : State} {e : Event} {i : Nat} {t : Task} (h : s.begin i t = some s')
    (hok : staysInClass s e = true) (ht : Rows s → t.Sound s) :
    ∃ s₁ j u, s' = s₁.goto j u ∧ Effect s e s₁ ∧ ∀ v, u = some v → Rows s → v.Sound s := by
  unfold State.begin at h
  split at h
  · cases h
  · cases h
    refine ⟨s, i, some t, rfl, .quiet hok, ?_⟩
    rintro v ⟨⟩
    exact ht

/-- A task ends with what it has written. -/
theorem ends_cases {s s₁ : State} {e : Event} (i : Nat) (h : Effect s e s₁) :
    ∃ s₂ j u, s₁.goto i none = s₂.goto j u ∧ Effect s e s₂ ∧ ∀ v, u = some v → Rows s → v.Sound s := by
  refine ⟨s₁, i, none, rfl, h, ?_⟩
  rintro v ⟨⟩

/-- A task that only reads goes on. -/
theorem reads_cases {s : State} {e : Event} (i : Nat) {t : Option Task} (hok : staysInClass s e = true)
    (ht : ∀ v, t = some v → Rows s → v.Sound s) :
    ∃ s₁ j u, s.goto i t = s₁.goto j u ∧ Effect s e s₁ ∧ ∀ v, u = some v → Rows s → v.Sound s :=
  ⟨s, i, t, rfl, .quiet hok, ht⟩

theorem stays_resume {s : State} {i : Nat} {id : String} {t : Task} (ht : s.tasks.get i = some t)
    (h : t.stays s = true) : staysInClass s (.resume i id) = true := by
  rw [staysInClass, ht]
  exact h

theorem resume_cases {s s' : State} {i : Nat} {id : String} {t : Task} (ht : s.tasks.get i = some t)
    (h : resume s i id t = some s') :
    ∃ s₁ j u, s' = s₁.goto j u ∧ Effect s (.resume i id) s₁ ∧ ∀ v, u = some v → Rows s → v.Sound s := by
  cases t with
  | createGroup courseId =>
    have hok : staysInClass s (.resume i id) = true := stays_resume ht rfl
    rw [resume] at h
    split at h
    · cases h
    · rename_i hid
      rw [not_or] at hid
      cases h
      exact ends_cases i (.createGroup hok id courseId hid.1 hid.2)
  | findRemoved courseId groupId =>
    have hok : staysInClass s (.resume i id) = true := stays_resume ht rfl
    cases h
    refine reads_cases i hok fun v hv _ => ?_
    split at hv
    · cases hv
      trivial
    · cases hv
  | remove groupId =>
    have hok : staysInClass s (.resume i id) = true := stays_resume ht rfl
    cases h
    exact ends_cases i (.remove hok groupId)
  | findGroup courseId groupId studentIds =>
    have hok : staysInClass s (.resume i id) = true := stays_resume ht rfl
    cases h
    refine reads_cases i hok fun v hv _ => ?_
    split at hv
    · cases hv
      trivial
    · cases hv
  | findEnrolled courseId groupId studentIds =>
    have hok : staysInClass s (.resume i id) = true := stays_resume ht rfl
    cases h
    refine reads_cases i hok ?_
    rintro v ⟨⟩ hrows
    exact (nodup_classRoster hrows.enrollments courseId).filter _
  | setMembers groupId valid =>
    cases h
    exact ends_cases i (.setMembers ht)
  | enroll courseId studentId =>
    have hok : staysInClass s (.resume i id) = true := stays_resume ht rfl
    cases h
    exact ends_cases i (.enroll hok courseId studentId)
  | unenroll courseId studentId =>
    cases h
    exact ends_cases i (.unenroll ht)
  | findTarget courseId groupId maxPoints =>
    have hok : staysInClass s (.resume i id) = true := stays_resume ht rfl
    cases h
    refine reads_cases i hok fun v hv hrows => ?_
    split at hv
    · rename_i hget
      cases hv
      refine .inl (knows_of_group hrows fun g hg => ?_)
      cases hg
      exact hget
    · cases hv
  | createAssignment a =>
    rw [resume] at h
    split at h
    · cases h
    · cases h
      exact ends_cases i (.createAssignment ht)

/-- A step changes the tables in one way, and the one call it makes go on is sound. -/
theorem step_cases {s s' : State} {e : Event} (h : step s e = some s') :
    ∃ s₁ i t, s' = s₁.goto i t ∧ Effect s e s₁ ∧ ∀ u, t = some u → Rows s → u.Sound s := by
  cases e with
  | createGroup i courseId => exact begin_cases h rfl fun _ => trivial
  | remove i courseId groupId => exact begin_cases h rfl fun _ => trivial
  | setMembers i courseId groupId studentIds => exact begin_cases h rfl fun _ => trivial
  | enroll i courseId studentId => exact begin_cases h rfl fun _ => trivial
  | unenroll i courseId studentId => exact begin_cases h rfl fun _ => trivial
  | createAssignment i courseId groupId maxPoints =>
    refine begin_cases h rfl fun _ => ?_
    cases groupId with
    | none =>
      refine .inl ?_
      rintro g ⟨⟩
    | some g =>
      dsimp only
      split
      · rename_i hg
        exact .inr (congrArg some hg)
      · trivial
  | resume i id =>
    obtain ⟨t, ht, hresume⟩ := Option.bind_eq_some_iff.1 h
    exact resume_cases ht hresume
  | fail i =>
    obtain ⟨t, -, rfl⟩ := Option.map_eq_some_iff.1 h
    exact ends_cases i (.quiet rfl)

/-! ## What holds in every state -/

/-- Ids stay handed out, and a group under one of them can only go. -/
structure Later (s s' : State) : Prop where
  issued : ∀ id ∈ s.issued, id ∈ s'.issued
  groups : ∀ groupId courseId, groupId ∈ s.issued → s'.groups.get groupId = some courseId →
    s.groups.get groupId = some courseId

theorem knows_later {s s' : State} {a : Assignment} (h : s.Knows a) (hlater : Later s s') : s'.Knows a := by
  intro groupId hg
  obtain ⟨hissued, hcourse⟩ := h groupId hg
  exact ⟨hlater.issued groupId hissued, fun courseId hc => hcourse courseId (hlater.groups groupId courseId hissued hc)⟩

theorem sound_later {s s' : State} {t : Task} (h : t.Sound s) (hlater : Later s s') : t.Sound s' := by
  cases t with
  | createAssignment a => exact h.imp (knows_later · hlater) id
  | setMembers groupId valid => exact h
  | _ => trivial

theorem later_of_groups {s s' : State} (hissued : ∀ id ∈ s.issued, id ∈ s'.issued) (hgroups : s'.groups = s.groups) :
    Later s s' := by
  refine ⟨hissued, fun groupId courseId _ hc => ?_⟩
  rw [hgroups] at hc
  exact hc

theorem get_group_of_fresh {s : State} (h : Rows s) {id : GroupId} (hfresh : id ∉ s.issued) :
    s.groups.get id = none :=
  Option.eq_none_iff_forall_ne_some.2 fun courseId hc => hfresh (h.issued id courseId hc).1

theorem effect_later {s s' : State} {e : Event} (hrows : Rows s) (h : Effect s e s') : Later s s' := by
  cases h with
  | quiet hok => exact later_of_groups (fun _ hid => hid) rfl
  | createGroup hok id courseId hfresh hid =>
    refine ⟨fun j hj => List.mem_cons_of_mem _ hj, fun groupId c hissued hc => ?_⟩
    have hne : groupId ≠ id := fun h => hfresh (h ▸ hissued)
    replace hc : (s.groups.insert id courseId).get groupId = some c := hc
    rwa [Table.get_insert (get_group_of_fresh hrows hfresh), if_neg hne] at hc
  | remove hok groupId => exact ⟨fun _ hid => hid, fun _ _ _ hc => (Table.get_filter.1 hc).1⟩
  | enroll hok courseId studentId =>
    unfold State.enroll
    split
    · exact later_of_groups (fun _ hid => hid) rfl
    · exact later_of_groups (fun _ hid => hid) rfl
  | setMembers htask =>
    unfold State.setMembers
    split
    · exact later_of_groups (fun _ hid => hid) rfl
    · exact later_of_groups (fun _ hid => hid) rfl
  | unenroll htask => exact later_of_groups (fun _ hid => hid) rfl
  | createAssignment htask =>
    unfold State.createAssignment
    split
    · exact later_of_groups (fun _ hid => List.mem_cons_of_mem _ hid) rfl
    · exact later_of_groups (fun _ hid => hid) rfl

theorem rows_createGroup {s : State} (h : Rows s) {id : GroupId} (courseId : CourseId) (hfresh : id ∉ s.issued)
    (hid : id ≠ "") : Rows (s.createGroup id courseId) := by
  have hnone := get_group_of_fresh h hfresh
  have hstays : ∀ g c, s.groups.get g = some c → (s.groups.insert id courseId).get g = some c :=
    fun g c hg => Table.get_insert_of_some hg id courseId
  refine ⟨h.enrollments, h.members, fun groupId c hc => ?_, fun groupId studentId hmem => ?_,
    fun j a groupId ha hg => hstays groupId a.courseId (h.targets j a groupId ha hg)⟩
  · replace hc : (s.groups.insert id courseId).get groupId = some c := hc
    rw [Table.get_insert hnone] at hc
    split at hc
    · rename_i heq
      exact ⟨heq ▸ List.mem_cons_self, heq ▸ hid⟩
    · exact ⟨List.mem_cons_of_mem _ (h.issued groupId c hc).1, (h.issued groupId c hc).2⟩
  · obtain ⟨c, hc⟩ := h.kept groupId studentId hmem
    exact ⟨c, hstays groupId c hc⟩

theorem rows_remove {s : State} (h : Rows s) (groupId : GroupId) : Rows (s.remove groupId) := by
  refine ⟨h.enrollments, h.members.filter _, fun g c hc => h.issued g c (Table.get_filter.1 hc).1,
    fun g u hmem => ?_, fun id a g ha hg => ?_⟩
  · obtain ⟨hmem, hne⟩ := List.mem_filter.1 hmem
    obtain ⟨c, hc⟩ := h.kept g u hmem
    exact ⟨c, Table.get_filter.2 ⟨hc, bne_iff_ne.2 (of_decide_eq_true hne)⟩⟩
  · replace ha : (s.assignments.map _).get id = some a := ha
    rw [Table.get_map] at ha
    obtain ⟨a₀, ha₀, rfl⟩ := Option.map_eq_some_iff.1 ha
    split at hg
    · cases hg
    · rename_i hne
      rw [if_neg hne]
      refine Table.get_filter.2 ⟨h.targets id a₀ g ha₀ hg, bne_iff_ne.2 ?_⟩
      rintro rfl
      exact hne hg

theorem rows_setMembers {s : State} (h : Rows s) (groupId : GroupId) {valid : List UserId} (hvalid : valid.Nodup) :
    Rows (s.setMembers groupId valid) := by
  unfold State.setMembers
  split
  · rename_i hsome
    refine ⟨h.enrollments, ?_, h.issued, fun g u hmem => ?_, h.targets⟩
    · refine List.nodup_append.2 ⟨h.members.filter _, hvalid.map fun u v huv => (Prod.mk.inj huv).2, ?_⟩
      rintro ⟨g, u⟩ hold ⟨g', u'⟩ hnew heq
      cases heq
      obtain ⟨v, -, hv⟩ := List.mem_map.1 hnew
      cases hv
      exact of_decide_eq_true (List.mem_filter.1 hold).2 rfl
    · rcases List.mem_append.1 hmem with hold | hnew
      · exact h.kept g u (List.mem_filter.1 hold).1
      · obtain ⟨v, -, hv⟩ := List.mem_map.1 hnew
        cases hv
        exact Option.isSome_iff_exists.1 hsome
  · exact h

theorem rows_enroll {s : State} (h : Rows s) (courseId : CourseId) (studentId : UserId) :
    Rows (s.enroll courseId studentId) := by
  unfold State.enroll
  split
  · exact h
  · rename_i hnew
    refine ⟨?_, h.members, h.issued, h.kept, h.targets⟩
    refine List.nodup_append.2 ⟨h.enrollments, List.nodup_singleton _, ?_⟩
    rintro x hx y hy rfl
    rw [List.mem_singleton] at hy
    exact hnew (hy ▸ hx)

theorem rows_createAssignment {s : State} (h : Rows s) (id : AssignmentId) {a : Assignment}
    (ha : s.Knows a ∨ a.groupId = some "") : Rows (s.createAssignment id a) := by
  unfold State.createAssignment
  split
  · rename_i hall
    refine ⟨h.enrollments, h.members, fun g c hc => ?_, h.kept, fun j b groupId hb hg => ?_⟩
    · exact ⟨List.mem_cons_of_mem _ (h.issued g c hc).1, (h.issued g c hc).2⟩
    · rcases Table.get_insert_cases hb with hold | ⟨-, rfl⟩
      · exact h.targets j b groupId hold hg
      · rw [hg, Option.all_some] at hall
        obtain ⟨c, hc⟩ := Option.isSome_iff_exists.1 hall
        rcases ha with hknows | hempty
        · rw [(hknows groupId hg).2 c hc] at hc
          exact hc
        · cases hg.symm.trans hempty
          exact absurd rfl (h.issued "" c hc).2
  · exact h

theorem rows_effect {s s' : State} {e : Event} (h : Inv s) (heffect : Effect s e s') : Rows s' := by
  cases heffect with
  | quiet hok => exact h.rows
  | createGroup hok id courseId hfresh hid => exact rows_createGroup h.rows courseId hfresh hid
  | remove hok groupId => exact rows_remove h.rows groupId
  | enroll hok courseId studentId => exact rows_enroll h.rows courseId studentId
  | setMembers htask => exact rows_setMembers h.rows _ (h.tasks _ _ htask)
  | unenroll htask => exact ⟨h.rows.enrollments.filter _, h.rows.members, h.rows.issued, h.rows.kept, h.rows.targets⟩
  | createAssignment htask => exact rows_createAssignment h.rows _ (h.tasks _ _ htask)

theorem effect_tasks {s s' : State} {e : Event} (h : Effect s e s') : s'.tasks = s.tasks := by
  cases h with
  | quiet hok => rfl
  | createGroup hok id courseId hfresh hid => rfl
  | remove hok groupId => rfl
  | enroll hok courseId studentId =>
    unfold State.enroll
    split
    · rfl
    · rfl
  | setMembers htask =>
    unfold State.setMembers
    split
    · rfl
    · rfl
  | unenroll htask => rfl
  | createAssignment htask =>
    unfold State.createAssignment
    split
    · rfl
    · rfl

theorem init_inv : Inv init := by
  refine ⟨⟨List.nodup_nil, List.nodup_nil, ?_, ?_, ?_⟩, ?_⟩
  · rintro groupId courseId ⟨⟩
  · rintro groupId studentId ⟨⟩
  · rintro id a groupId ⟨⟩
  · rintro i t ⟨⟩

theorem goto_rows {s : State} (h : Rows s) (i : Nat) (t : Option Task) : Rows (s.goto i t) :=
  ⟨h.enrollments, h.members, h.issued, h.kept, h.targets⟩

theorem step_inv {s s' : State} {e : Event} (h : Inv s) (hstep : step s e = some s') : Inv s' := by
  obtain ⟨s₁, i, t, rfl, heffect, hsound⟩ := step_cases hstep
  have hlater := effect_later h.rows heffect
  have hgoto : Later s (s₁.goto i t) := ⟨hlater.issued, hlater.groups⟩
  refine ⟨goto_rows (rows_effect h heffect) i t, fun j u hu => ?_⟩
  rcases Pool.get_put_cases hu with ⟨-, ht⟩ | ⟨-, hold⟩
  · exact sound_later (hsound u ht h.rows) hgoto
  · rw [effect_tasks heffect] at hold
    exact sound_later (h.tasks j u hold) hgoto

/-! ## Counting an audience -/

/-- Whoever of an audience has submitted, and whoever is missing, make up the audience. -/
theorem submitted_add_missing {audience : List UserId} {submissions : List Submission} (haudience : audience.Nodup)
    (hunique : (submissions.map (·.studentId)).Nodup) :
    (submissions.filter (·.studentId ∈ audience)).length +
      (audience.filter (· ∉ (submissions.filter (·.studentId ∈ audience)).map (·.studentId))).length =
    audience.length := by
  have hmem : ∀ u, u ∈ (submissions.filter (·.studentId ∈ audience)).map (·.studentId) ↔
      u ∈ audience ∧ u ∈ submissions.map (·.studentId) := by
    intro u
    simp only [List.mem_map, List.mem_filter, decide_eq_true_eq]
    constructor
    · rintro ⟨r, ⟨hr, hin⟩, rfl⟩
      exact ⟨hin, r, hr, rfl⟩
    · rintro ⟨hin, r, hr, rfl⟩
      exact ⟨r, ⟨hr, hin⟩, rfl⟩
  have hperm : ((submissions.filter (·.studentId ∈ audience)).map (·.studentId)).Perm
      (audience.filter (· ∈ (submissions.filter (·.studentId ∈ audience)).map (·.studentId))) := by
    refine (List.perm_ext_iff_of_nodup (hunique.sublist (List.filter_sublist.map _)) (haudience.filter _)).2 fun u => ?_
    rw [List.mem_filter, decide_eq_true_eq]
    exact ⟨fun h => ⟨((hmem u).1 h).1, h⟩, fun h => h.2⟩
  have hlength := hperm.length_eq
  rw [List.length_map] at hlength
  have hsplit := List.length_eq_length_filter_add (l := audience)
    fun u => u ∈ (submissions.filter (·.studentId ∈ audience)).map (·.studentId)
  rw [hlength, hsplit]
  simp only [decide_not]

/-- Every member of a group of a course is enrolled in it. -/
def Enrolled (s : State) : Prop :=
  ∀ groupId studentId, (groupId, studentId) ∈ s.members →
    ∃ courseId, s.groups.get groupId = some courseId ∧ (courseId, studentId) ∈ s.enrollments

section Audience

variable {s : State}

theorem mem_group {groupId : GroupId} {u : UserId} : u ∈ s.group groupId ↔ (groupId, u) ∈ s.members := by
  simp [State.group]

theorem mem_classRoster {courseId : CourseId} {u : UserId} :
    u ∈ s.classRoster courseId ↔ (courseId, u) ∈ s.enrollments := by
  simp [State.classRoster]

theorem nodup_group (h : Rows s) (groupId : GroupId) : (s.group groupId).Nodup :=
  nodup_under h.members groupId

/-- The members of a group are those of its course the mail goes to. -/
theorem group_perm_notified (h : Rows s) (henrolled : Enrolled s) {a : Assignment} (hknows : s.Knows a)
    {groupId : GroupId} (hg : a.groupId = some groupId) : (s.group groupId).Perm (s.notified a) := by
  refine (List.perm_ext_iff_of_nodup (nodup_group h groupId)
    ((nodup_classRoster h.enrollments a.courseId).filter _)).2 fun u => ?_
  rw [mem_group, List.mem_filter, mem_classRoster, decide_eq_true_eq]
  constructor
  · intro hmem
    obtain ⟨c, hc, hin⟩ := henrolled groupId u hmem
    refine ⟨(hknows groupId hg).2 c hc ▸ hin, fun g hg' => ?_⟩
    cases Option.some.inj (hg.symm.trans hg')
    exact hmem
  · rintro ⟨-, hall⟩
    exact hall groupId hg

theorem enrolledCount_eq {a : Assignment} {groupId : GroupId} (hg : a.groupId = some groupId) :
    s.enrolledCount a = (s.group groupId).length := by
  rw [State.enrolledCount, hg, State.group, List.length_map]

theorem audience_eq (h : Rows s) {id : AssignmentId} {a : Assignment} (ha : s.assignments.get id = some a)
    {groupId : GroupId} (hg : a.groupId = some groupId) : s.audience a = s.group groupId := by
  have hsome : (a.groupId.filter fun g => (s.groups.get g).isSome) = some groupId := by
    rw [hg, Option.filter_some, h.targets id a groupId ha hg]
    rfl
  rw [State.audience, hsome]

theorem reported (h : Rows s) (henrolled : Enrolled s) {id : AssignmentId} {a : Assignment}
    (ha : s.assignments.get id = some a) {groupId : GroupId} (hg : a.groupId = some groupId) : Reported s id a := by
  have hknows : s.Knows a := knows_of_group h fun g hg' => h.targets id a g ha hg'
  have haudience := audience_eq h ha hg
  refine ⟨fun submissions => ?_, fun submissions hunique => ?_, fun user huser => ?_⟩
  · show (s.audience a).length = _
    rw [haudience]
    exact (group_perm_notified h henrolled hknows hg).length_eq
  · refine submitted_add_missing ?_ hunique
    rw [haudience]
    exact nodup_group h groupId
  · rw [haudience, mem_group] at huser
    obtain ⟨c, hc, hin⟩ := henrolled groupId user huser
    cases (h.targets id a groupId ha hg).symm.trans hc
    unfold State.assertCanSubmit
    simp only [bind_ok_iff, orThrow_ok_iff, ensure_ok_iff]
    refine ⟨a, ha, (), hin, (), fun g hg' => ?_, rfl⟩
    cases Option.some.inj (hg.symm.trans hg')
    exact huser

/-- The rest follows from the members being enrolled. -/
theorem inClass_iff (h : Rows s) : InClass s ↔ Enrolled s := by
  refine ⟨fun hin => hin.members, fun henrolled => ⟨henrolled, h.targets, fun a hknows hsome => ?_,
    fun id a ha hsome => ?_⟩⟩
  · obtain ⟨groupId, hg⟩ := Option.isSome_iff_exists.1 hsome
    rw [enrolledCount_eq hg]
    exact (group_perm_notified h henrolled hknows hg).length_eq
  · obtain ⟨groupId, hg⟩ := Option.isSome_iff_exists.1 hsome
    exact reported h henrolled ha hg

end Audience

/-! ## Runs -/

theorem stays_setMembers {s : State} {groupId : GroupId} {valid : List UserId} :
    (Task.setMembers groupId valid).stays s = true ↔
      ∀ u ∈ valid, ∀ c, s.groups.get groupId = some c → (c, u) ∈ s.enrollments := by
  unfold Task.stays
  simp only [List.all_eq_true, Option.all_eq_true, decide_eq_true_eq]

theorem stays_unenroll {s : State} {courseId : CourseId} {studentId : UserId} :
    (Task.unenroll courseId studentId).stays s = true ↔
      ∀ groupId, (groupId, studentId) ∈ s.members → s.groups.get groupId ≠ some courseId := by
  simp only [Task.stays, List.all_eq_true, Bool.not_eq_true', Bool.and_eq_false_imp, beq_iff_eq, beq_eq_false_iff_ne]
  constructor
  · intro h groupId hmem
    exact h (groupId, studentId) hmem rfl
  · rintro h ⟨g, u⟩ hmem rfl
    exact h g hmem

theorem enrolled_setMembers {s : State} (henrolled : Enrolled s) (groupId : GroupId) (valid : List UserId) :
    Enrolled (s.setMembers groupId valid) ↔ (Task.setMembers groupId valid).stays s = true := by
  rw [stays_setMembers]
  unfold State.setMembers
  split
  · constructor
    · intro h u hu c hc
      obtain ⟨d, hd, hin⟩ := h groupId u (List.mem_append_right _ (List.mem_map_of_mem hu))
      cases hc.symm.trans hd
      exact hin
    · intro h g u hmem
      rcases List.mem_append.1 hmem with hold | hnew
      · exact henrolled g u (List.mem_filter.1 hold).1
      · obtain ⟨v, hv, heq⟩ := List.mem_map.1 hnew
        cases heq
        rename_i hsome
        obtain ⟨c, hc⟩ := Option.isSome_iff_exists.1 hsome
        exact ⟨c, hc, h u hv c hc⟩
  · rename_i hnone
    refine iff_of_true henrolled fun u _ c hc => ?_
    rw [hc] at hnone
    exact absurd rfl hnone

theorem enrolled_unenroll {s : State} (henrolled : Enrolled s) (courseId : CourseId) (studentId : UserId) :
    Enrolled (s.unenroll courseId studentId) ↔ (Task.unenroll courseId studentId).stays s = true := by
  rw [stays_unenroll]
  constructor
  · intro h groupId hmem hgroup
    obtain ⟨c, hc, hin⟩ := h groupId studentId hmem
    cases hgroup.symm.trans hc
    exact of_decide_eq_true (List.mem_filter.1 hin).2 rfl
  · intro h g u hmem
    obtain ⟨c, hc, hin⟩ := henrolled g u hmem
    refine ⟨c, hc, List.mem_filter.2 ⟨hin, decide_eq_true fun heq => ?_⟩⟩
    cases heq
    exact h g hmem hc

/-- A step keeps the groups inside their classes just when it stays in class. -/
theorem enrolled_step {s s' : State} {e : Event} (henrolled : Enrolled s) (heffect : Effect s e s') :
    Enrolled s' ↔ staysInClass s e = true := by
  cases heffect with
  | quiet hok => exact iff_of_true henrolled hok
  | createGroup hok id courseId hfresh hid =>
    refine iff_of_true (fun groupId u hmem => ?_) hok
    obtain ⟨c, hc, hin⟩ := henrolled groupId u hmem
    exact ⟨c, Table.get_insert_of_some hc id courseId, hin⟩
  | remove hok groupId =>
    refine iff_of_true (fun g u hmem => ?_) hok
    obtain ⟨hmem, hne⟩ := List.mem_filter.1 hmem
    obtain ⟨c, hc, hin⟩ := henrolled g u hmem
    exact ⟨c, Table.get_filter.2 ⟨hc, bne_iff_ne.2 (of_decide_eq_true hne)⟩, hin⟩
  | enroll hok courseId studentId =>
    refine iff_of_true ?_ hok
    unfold State.enroll
    split
    · exact henrolled
    · intro g u hmem
      obtain ⟨c, hc, hin⟩ := henrolled g u hmem
      exact ⟨c, hc, List.mem_append_left _ hin⟩
  | @setMembers i id groupId valid htask =>
    rw [enrolled_setMembers henrolled, staysInClass, htask, Option.all_some]
  | @unenroll i id courseId studentId htask =>
    rw [enrolled_unenroll henrolled, staysInClass, htask, Option.all_some]
  | @createAssignment i id a htask =>
    refine iff_of_true ?_ (stays_resume htask rfl)
    unfold State.createAssignment
    split
    · exact henrolled
    · exact henrolled

/-- In every run, the groups stay inside their classes in every state if and only if every unenrolment is of a student
who is in no group of the course, and every transaction of `setMembers` writes students who are still enrolled. -/
theorem groups_inClass {es : List Event} {s : State} (h : run step init es = some s) :
    Meets step (fun t e => staysInClass t e = true) init es ↔
      ∀ es₁ es₂ t, es = es₁ ++ es₂ → run step init es₁ = some t → InClass t := by
  have hinit : InClass init := by
    refine (inClass_iff init_inv.rows).2 ?_
    rintro groupId studentId ⟨⟩
  refine meets_iff (fun _ _ _ => step_inv) (fun u e u' hu hin hstep => ?_) init_inv hinit h
  obtain ⟨s₁, i, t, rfl, heffect, -⟩ := step_cases hstep
  rw [inClass_iff (goto_rows (rows_effect hu heffect) i t)]
  show Enrolled s₁ ↔ _
  exact enrolled_step ((inClass_iff hu.rows).1 hin) heffect

namespace Example

/-- Yusuf is enrolled, and put into a new group that gets an assignment. -/
def grouped : List Event :=
  [.enroll 0 "web-1" "yusuf", .resume 0 "", .createGroup 0 "web-1", .resume 0 "team",
    .setMembers 0 "web-1" "team" ["yusuf", "layla"], .resume 0 "", .resume 0 "", .resume 0 "",
    .createAssignment 0 "web-1" (some "team") none, .resume 0 "", .resume 0 "essay"]

def leaves : List Event := [.unenroll 0 "web-1" "yusuf", .resume 0 ""]

def counts (s : State) : List (Nat × Nat × List UserId × Bool) :=
  s.assignments.entries.map fun e =>
    (s.enrolledCount e.2, (s.track e.2 []).audienceCount, s.notified e.2, (s.assertCanSubmit "yusuf" e.1).isOk)

end Example

open Rosters.Example in
theorem grouped_inClass : ∃ s, run step init grouped = some s ∧ InClass s ∧ counts s = [(1, 1, ["yusuf"], true)] := by
  have hrun : (run step init grouped).map counts = some [(1, 1, ["yusuf"], true)] := by decide
  obtain ⟨s, hs, hcounts⟩ := Option.map_eq_some_iff.1 hrun
  exact ⟨s, hs, (groups_inClass hs).1 (by decide) grouped [] s (List.append_nil _).symm hs, hcounts⟩

open Rosters.Example in
/-- He is unenrolled, stays in the group and in both counts, and cannot submit. -/
theorem leaver_counted : ∃ s, run step init (grouped ++ leaves) = some s ∧ ¬ InClass s ∧
    s.members = [("team", "yusuf")] ∧ s.enrollments = [] ∧ counts s = [(1, 1, [], false)] := by
  have hrun : (run step init (grouped ++ leaves)).map counts = some [(1, 1, [], false)] := by decide
  have hrows : (run step init (grouped ++ leaves)).map (·.members) = some [("team", "yusuf")] := by decide
  have hgone : (run step init (grouped ++ leaves)).map (·.enrollments) = some [] := by decide
  obtain ⟨s, hs, hcounts⟩ := Option.map_eq_some_iff.1 hrun
  rw [hs] at hrows hgone
  have hmembers : s.members = [("team", "yusuf")] := Option.some.inj hrows
  have henrollments : s.enrollments = [] := Option.some.inj hgone
  refine ⟨s, hs, fun hin => ?_, hmembers, henrollments, hcounts⟩
  obtain ⟨c, -, hc⟩ := hin.members "team" "yusuf" (hmembers ▸ List.mem_singleton_self _)
  rw [henrollments] at hc
  cases hc

end Livetich.Assignments.Rosters
