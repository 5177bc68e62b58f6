/-
What `AuthService.joinWorkspace` spends and gives: the statements of its transaction in order, with the flag
`granted` that decides whether the link loses a use. A write that the database refuses takes back the whole
transaction; the account is read again after it.
-/
import Livetich.Auth.Doors

namespace Livetich.Auth.Joining

open TransSys Livetich.Lib

structure Course where
  organizationId : OrganizationId
  instructorId : Option UserId
  deriving DecidableEq

structure School where
  db : Db
  courses : Table CourseId Course

inductive Failure
  | http (e : HttpError)
  /-- A write that the database refuses, with Prisma's code. -/
  | prisma (code : String)
  deriving DecidableEq

/-! ## Statements -/

/-- `tx.membership.create`, which refers to the account. -/
def School.createMembership (s : School) (userId : UserId) (organizationId : OrganizationId)
    (membership : Membership) : Except Failure School := do
  ensure ((s.db.users.get userId).isSome = true) (.prisma "P2003")
  return { s with db := { s.db with memberships := s.db.memberships.insert (userId, organizationId) membership } }

/-- `tx.enrollment.create`, which refers to the course and to the account. -/
def School.createEnrollment (s : School) (courseId : CourseId) (studentId : UserId) : Except Failure School := do
  ensure ((s.courses.get courseId).isSome = true ∧ (s.db.users.get studentId).isSome = true) (.prisma "P2003")
  return { s with db := { s.db with enrollments := (courseId, studentId) :: s.db.enrollments } }

def School.setInstructor (s : School) (courseId : CourseId) (instructorId : Option UserId) : School :=
  { s with courses := s.courses.modify courseId fun c => { c with instructorId := instructorId } }

/-- `tx.course.update` of a course's instructor. -/
def School.updateCourse (s : School) (courseId : CourseId) (userId : UserId) : Except Failure School := do
  let _ ← orThrow (s.courses.get courseId) (.prisma "P2025")
  return s.setInstructor courseId (some userId)

/-- `tx.invite.update`. -/
def School.incrementUses (s : School) (inviteToken : String) : School :=
  { s with db := { s.db with invites := s.db.invites.modify inviteToken fun i => { i with uses := i.uses + 1 } } }

/-! ## The transaction -/

/-- A membership for someone who has none, and whether it was granted. -/
def School.grantMembership (s : School) (userId : UserId) (invite : Invites.Invite)
    (existing : Option Membership) : Except Failure (School × Bool) := do
  if existing.isSome then return (s, false)
  let s' ← s.createMembership userId invite.organizationId ⟨invite.role, .active⟩
  return (s', true)

/-- The work on the link's course: an enrolment is granted, an assignment is not counted. -/
def School.grantCourse (s : School) (userId : UserId) (invite : Invites.Invite) (role : Role) (granted : Bool) :
    Except Failure (School × Bool) :=
  match invite.courseId, role with
  | some courseId, .student =>
    if (courseId, userId) ∈ s.db.enrollments then return (s, granted)
    else do
      let s' ← s.createEnrollment courseId userId
      return (s', true)
  | some courseId, .instructor => do
    let s' ← s.updateCourse courseId userId
    return (s', granted)
  | _, _ => return (s, granted)

def School.transaction (s : School) (userId : UserId) (inviteToken : String) :
    Except Failure (School × OrganizationId × Role) := do
  let invite ← (Invites.assertInviteUsable (s.db.invites.get inviteToken) s.db.now).mapError .http
  let existing := s.db.memberships.get (userId, invite.organizationId)
  let member ← s.grantMembership userId invite existing
  let role := (existing.map (·.role)).getD invite.role
  let course ← member.1.grantCourse userId invite role member.2
  return (if course.2 then course.1.incrementUses inviteToken else course.1, invite.organizationId, role)

/-- The rows after a call, and what it gives back or throws. -/
def School.joinWorkspace (s : School) (userId : UserId) (inviteToken : String) :
    School × Except Failure JwtPayload :=
  match s.transaction userId inviteToken with
  | .error e => (s, .error e)
  | .ok (s', orgId, role) =>
    match s'.db.users.get userId with
    | some user => (s', .ok (toAuthResult userId user role (some orgId)))
    | none => (s', .error (.http (.unauthorized "Account not found")))

/-! ## Other operations -/

/-- `register`, with the course of the link: a new instructor is assigned to it. -/
def School.register (s : School) (account : Account) (inviteToken : String) : Except Failure School := do
  let db ← (s.db.register account inviteToken).mapError .http
  let invite ← (Invites.assertInviteUsable (s.db.invites.get inviteToken) s.db.now).mapError .http
  match invite.courseId with
  | none => return { s with db := db }
  | some courseId =>
    if invite.role = .instructor then School.updateCourse { s with db := db } courseId account.id
    else do
      ensure ((s.courses.get courseId).isSome = true) (.prisma "P2003")
      return { s with db := db }

/-- `createInvite`: a link is for students or instructors, and for a course of its organization. -/
def School.createInvite (s : School) (token : String) (invite : Invites.Invite) : Except Failure School := do
  ensure (invite.role = .student ∨ invite.role = .instructor)
    (.http (.badRequest "Invite role must be STUDENT or INSTRUCTOR"))
  ensure (invite.courseId.all (fun courseId =>
      (s.courses.get courseId).any fun c => c.organizationId = invite.organizationId) = true)
    (.http (.notFound "Program not found"))
  return { s with db := { s.db with
    invites := s.db.invites.insert token { invite with uses := 0, revokedAt := none } } }

/-- A course goes with its enrolments and its links. -/
def School.deleteCourse (s : School) (courseId : CourseId) : School where
  db := { s.db with
    enrollments := s.db.enrollments.filter fun e => e.1 ≠ courseId
    invites := s.db.invites.filter fun _ i => i.courseId ≠ some courseId }
  courses := s.courses.filter fun c _ => c ≠ courseId

/-- The calls that write these rows. Who may make them is not asked for the last five: whoever may not leaves
the rows as they are. -/
inductive Event
  | auth (ev : Auth.Event)
  | createCourse (courseId : CourseId) (course : Course)
  | assignInstructor (courseId : CourseId) (instructorId : Option UserId)
  | deleteCourse (courseId : CourseId)
  | enroll (courseId : CourseId) (studentId : UserId)
  | unenroll (courseId : CourseId) (studentId : UserId)
  deriving DecidableEq

def School.orKeep (s : School) (x : Except Failure School) : School := x.toOption.getD s

def School.call (verify : String → String → Bool) (s : School) : Event → School
  | .auth (.enter (.joinWorkspace userId inviteToken)) => (s.joinWorkspace userId inviteToken).1
  | .auth (.register account inviteToken) => s.orKeep (s.register account inviteToken)
  | .auth (.createInvite token invite) => s.orKeep (s.createInvite token invite)
  | .auth ev => { s with db := (s.db.call verify ev).toOption.getD s.db }
  | .createCourse courseId course => { s with courses := s.courses.insert courseId course }
  | .assignInstructor courseId instructorId => s.setInstructor courseId instructorId
  | .deleteCourse courseId => s.deleteCourse courseId
  | .enroll courseId studentId =>
    if (courseId, studentId) ∈ s.db.enrollments then s else s.orKeep (s.createEnrollment courseId studentId)
  | .unenroll courseId studentId =>
    { s with db := { s.db with enrollments := s.db.enrollments.filter (· ≠ (courseId, studentId)) } }

def step (verify : String → String → Bool) (s : School) (ev : Event) : Option School := some (s.call verify ev)

def empty : School where
  db := ⟨Table.empty, Table.empty, Table.empty, [], 0⟩
  courses := Table.empty

/-! ## What a call does -/

/-- What they are here, or what the link makes them. -/
def School.standing (s : School) (userId : UserId) (invite : Invites.Invite) : Role :=
  ((s.db.memberships.get (userId, invite.organizationId)).map (·.role)).getD invite.role

/-- The courses after someone of this standing was let into the link's course. -/
def assigned (courses : Table CourseId Course) (courseId : Option CourseId) (role : Role) (userId : UserId) :
    Table CourseId Course :=
  match courseId, role with
  | some courseId, .instructor => courses.modify courseId fun c => { c with instructorId := some userId }
  | _, _ => courses

@[simp] theorem assigned_none {courses : Table CourseId Course} {role : Role} {userId : UserId} :
    assigned courses none role userId = courses := rfl

@[simp] theorem assigned_instructor {courses : Table CourseId Course} {courseId : CourseId} {userId : UserId} :
    assigned courses (some courseId) .instructor userId =
      courses.modify courseId fun c => { c with instructorId := some userId } := rfl

theorem assigned_of_ne {courses : Table CourseId Course} {courseId : Option CourseId} {role : Role} {userId : UserId}
    (h : role ≠ .instructor) : assigned courses courseId role userId = courses := by
  cases role with
  | instructor => exact absurd rfl h
  | student => cases courseId <;> rfl
  | orgAdmin => cases courseId <;> rfl

/-- The rows after a call that is not refused: those of the doors, and the instructor of the link's course. -/
def School.joined (s : School) (userId : UserId) (inviteToken : String) (invite : Invites.Invite) : School where
  db := s.db.join userId inviteToken invite (s.db.memberships.get (userId, invite.organizationId))
  courses := assigned s.courses invite.courseId (s.standing userId invite) userId

/-- The time passes. -/
def School.wait (s : School) (ms : Nat) : School := { s with db := { s.db with now := s.db.now + ms } }

/-- An account with a membership is there. -/
def Linked (db : Db) : Prop := ∀ k m, db.memberships.get k = some m → ∃ user, db.users.get k.1 = some user

/-- Some row of this person, or the instructor of a course, is another one. -/
def Gives (s s' : School) (userId : UserId) : Prop :=
  (∃ organizationId, s'.db.memberships.get (userId, organizationId) ≠ s.db.memberships.get (userId, organizationId)) ∨
    (∃ courseId, ¬((courseId, userId) ∈ s'.db.enrollments ↔ (courseId, userId) ∈ s.db.enrollments)) ∨
      ∃ courseId, s'.courses.get courseId ≠ s.courses.get courseId

/-- What is expected of a call: it is refused and changes nothing, or it spends a use exactly when it gives
something; the next call by this person changes nothing; standing stays as it is, only students are enrolled,
and the course is the one of the link. -/
structure Joins (s : School) (userId : UserId) (inviteToken : String) : Prop where
  refused : ∀ e, (s.joinWorkspace userId inviteToken).2 = .error e → (s.joinWorkspace userId inviteToken).1 = s
  spends : ∀ payload, (s.joinWorkspace userId inviteToken).2 = .ok payload →
    (∃ invite, s.db.invites.get inviteToken = some invite ∧
      (s.joinWorkspace userId inviteToken).1.db.invites =
        s.db.invites.modify inviteToken (fun i => { i with uses := i.uses + 1 }) ∧
      Gives s (s.joinWorkspace userId inviteToken).1 userId) ∨
    ((s.joinWorkspace userId inviteToken).1.db.invites = s.db.invites ∧
      ¬Gives s (s.joinWorkspace userId inviteToken).1 userId)
  again : ∀ payload ms, (s.joinWorkspace userId inviteToken).2 = .ok payload →
    (((s.joinWorkspace userId inviteToken).1.wait ms).joinWorkspace userId inviteToken).1 =
      (s.joinWorkspace userId inviteToken).1.wait ms
  standing : ∀ k, (∃ m, s.db.memberships.get k = some m) ∨ k.1 ≠ userId →
    (s.joinWorkspace userId inviteToken).1.db.memberships.get k = s.db.memberships.get k
  students : ∀ e, ¬(e ∈ (s.joinWorkspace userId inviteToken).1.db.enrollments ↔ e ∈ s.db.enrollments) →
    e.2 = userId ∧ ∃ invite m, s.db.invites.get inviteToken = some invite ∧ invite.courseId = some e.1 ∧
      (s.joinWorkspace userId inviteToken).1.db.memberships.get (userId, invite.organizationId) = some m ∧
      m.role = .student
  course : ∀ courseId, (s.joinWorkspace userId inviteToken).1.courses.get courseId ≠ s.courses.get courseId →
    ∃ invite, s.db.invites.get inviteToken = some invite ∧ invite.courseId = some courseId

/-- An instructor of the link's organization who is not the instructor of its course. -/
def School.assigns (s : School) (userId : UserId) (invite : Invites.Invite) : Bool :=
  (s.db.memberships.get (userId, invite.organizationId)).any (fun m => m.role = .instructor) &&
    (invite.courseId.bind s.courses.get).any fun course => course.instructorId ≠ some userId

/-- Such an instructor opens the link while it can be used: they become the course's instructor, and no use is
spent. -/
def School.silentAssign (s : School) (userId : UserId) (inviteToken : String) : Bool :=
  (Invites.assertInviteUsable (s.db.invites.get inviteToken) s.db.now).toOption.any (s.assigns userId)

/-! ## The statements together -/

theorem grantMembership_ok {s : School} {userId : UserId} {invite : Invites.Invite} {existing : Option Membership}
    {r : School × Bool} (h : s.grantMembership userId invite existing = .ok r) :
    (existing.isSome = true ∧ r = (s, false)) ∨
    (existing = none ∧ (∃ user, s.db.users.get userId = some user) ∧
      r = ({ s with db := { s.db with
        memberships := s.db.memberships.insert (userId, invite.organizationId) ⟨invite.role, .active⟩ } }, true)) := by
  unfold School.grantMembership at h
  cases existing with
  | some m => cases h; exact .inl ⟨rfl, rfl⟩
  | none =>
    obtain ⟨s', hs', h⟩ := bind_ok_iff.1 h
    obtain ⟨u, huser, hs'⟩ := bind_ok_iff.1 hs'
    cases hs'
    cases h
    exact .inr ⟨rfl, Option.isSome_iff_exists.1 (ensure_ok_iff.1 huser), rfl⟩

/-- The course of the link is left alone, or the person is enrolled, or assigned. -/
theorem grantCourse_ok {s : School} {userId : UserId} {invite : Invites.Invite} {role : Role} {granted : Bool}
    {r : School × Bool} (h : s.grantCourse userId invite role granted = .ok r) :
    let enrols := (invite.courseId.filter fun courseId =>
      role = .student ∧ (courseId, userId) ∉ s.db.enrollments).toList
    r.1.db = { s.db with enrollments := enrols.map (·, userId) ++ s.db.enrollments } ∧
    r.2 = (granted || !enrols.isEmpty) ∧
    r.1.courses = assigned s.courses invite.courseId role userId := by
  intro enrols
  unfold School.grantCourse at h
  cases hcourse : invite.courseId with
  | none =>
    rw [hcourse] at h
    have hnone : enrols = [] := by simp [enrols, hcourse]
    cases h
    simp [hnone]
  | some courseId =>
    rw [hcourse] at h
    cases role with
    | student =>
      by_cases hin : (courseId, userId) ∈ s.db.enrollments
      · have hnone : enrols = [] := by simp [enrols, hcourse, hin]
        simp only [if_pos hin] at h
        cases h
        simp [hnone, assigned_of_ne]
      · have hone : enrols = [courseId] := by simp [enrols, hcourse, hin]
        simp only [if_neg hin] at h
        obtain ⟨s', hs', h⟩ := bind_ok_iff.1 h
        obtain ⟨u, -, hs'⟩ := bind_ok_iff.1 hs'
        cases hs'
        cases h
        simp [hone, assigned_of_ne]
    | instructor =>
      have hnone : enrols = [] := by simp [enrols, hcourse]
      obtain ⟨s', hs', h⟩ := bind_ok_iff.1 h
      obtain ⟨course, -, hs'⟩ := bind_ok_iff.1 hs'
      cases hs'
      cases h
      simp [hnone, School.setInstructor]
    | orgAdmin =>
      have hnone : enrols = [] := by simp [enrols, hcourse]
      cases h
      simp [hnone, assigned_of_ne]

/-- A transaction that is not rolled back leaves the rows of `joined`. -/
theorem transaction_ok {s : School} {userId : UserId} {inviteToken : String} {r : School × OrganizationId × Role}
    (h : s.transaction userId inviteToken = .ok r) :
    ∃ invite, Invites.assertInviteUsable (s.db.invites.get inviteToken) s.db.now = .ok invite ∧
      ((∃ m, s.db.memberships.get (userId, invite.organizationId) = some m) ∨
        ∃ user, s.db.users.get userId = some user) ∧
      r = (s.joined userId inviteToken invite, invite.organizationId, s.standing userId invite) := by
  unfold School.transaction at h
  obtain ⟨invite, hinvite, h⟩ := bind_ok_iff.1 h
  obtain ⟨member, hmember, h⟩ := bind_ok_iff.1 h
  obtain ⟨course, hcourse, h⟩ := bind_ok_iff.1 h
  refine ⟨invite, mapError_ok_iff.1 hinvite, ?_, ?_⟩
  · rcases grantMembership_ok hmember with ⟨hsome, -⟩ | ⟨-, huser, -⟩
    · exact .inl (Option.isSome_iff_exists.1 hsome)
    · exact .inr huser
  cases h
  obtain ⟨hdb, hgranted, hcourses⟩ := grantCourse_ok hcourse
  have hrows : (if course.2 then course.1.incrementUses inviteToken else course.1) =
      s.joined userId inviteToken invite := by
    rw [hgranted]
    obtain ⟨⟨db, courses⟩, granted⟩ := course
    dsimp only at hdb hcourses ⊢
    subst hdb hcourses
    unfold School.joined School.standing Db.join School.incrementUses
    -- A membership that is granted touches neither enrolments nor courses.
    rcases grantMembership_ok hmember with ⟨hsome, rfl⟩ | ⟨hnone, -, rfl⟩
    · obtain ⟨m, hm⟩ := Option.isSome_iff_exists.1 hsome
      rw [hm]
      dsimp only
      -- The use goes with the enrolment, if there is one.
      split
      · rename_i hspent
        simp_all
      · rename_i hkept
        simp_all
    · rw [hnone]
      simp
  rw [hrows]
  rfl

/-- The account is there: a membership is of one, or has just been created for one. -/
theorem joinWorkspace_of_transaction {s : School} (hs : Linked s.db) {userId : UserId} {inviteToken : String}
    {r : School × OrganizationId × Role} (h : s.transaction userId inviteToken = .ok r) :
    ∃ invite user, Invites.assertInviteUsable (s.db.invites.get inviteToken) s.db.now = .ok invite ∧
      s.db.users.get userId = some user ∧
      s.joinWorkspace userId inviteToken = (s.joined userId inviteToken invite,
        .ok (toAuthResult userId user (s.standing userId invite) (some invite.organizationId))) := by
  obtain ⟨invite, hinvite, hthere, rfl⟩ := transaction_ok h
  have huser : ∃ user, s.db.users.get userId = some user := by
    rcases hthere with ⟨m, hm⟩ | huser
    · exact hs _ m hm
    · exact huser
  obtain ⟨user, huser⟩ := huser
  have hread : (s.joined userId inviteToken invite).db.users.get userId = some user := huser
  refine ⟨invite, user, hinvite, huser, ?_⟩
  unfold School.joinWorkspace
  simp only [h, hread]

theorem joinWorkspace_cases {s : School} (hs : Linked s.db) (userId : UserId) (inviteToken : String) :
    (∃ e, s.joinWorkspace userId inviteToken = (s, .error e)) ∨
    ∃ invite user, Invites.assertInviteUsable (s.db.invites.get inviteToken) s.db.now = .ok invite ∧
      s.db.users.get userId = some user ∧
      s.joinWorkspace userId inviteToken = (s.joined userId inviteToken invite,
        .ok (toAuthResult userId user (s.standing userId invite) (some invite.organizationId))) := by
  cases h : s.transaction userId inviteToken with
  | error e =>
    refine .inl ⟨e, ?_⟩
    unfold School.joinWorkspace
    rw [h]
  | ok r => exact .inr (joinWorkspace_of_transaction hs h)

/-- The doors' join: the same rows and the same token. -/
theorem joinWorkspace_door {s : School} (hs : Linked s.db) {userId : UserId} {inviteToken : String}
    {payload : JwtPayload} (h : (s.joinWorkspace userId inviteToken).2 = .ok payload) :
    s.db.joinWorkspace userId inviteToken = .ok ((s.joinWorkspace userId inviteToken).1.db, payload) := by
  rcases joinWorkspace_cases hs userId inviteToken with ⟨e, he⟩ | ⟨invite, user, hinvite, huser, hok⟩
  · rw [he] at h
    cases h
  · rw [hok] at h ⊢
    cases h
    unfold Db.joinWorkspace
    rw [hinvite, huser]
    rfl

/-! ## A link that has nothing left to give -/

structure Settled (s : School) (userId : UserId) (invite : Invites.Invite) : Prop where
  member : ∃ m, s.db.memberships.get (userId, invite.organizationId) = some m
  enrolled : s.standing userId invite = .student → ∀ courseId, invite.courseId = some courseId →
    (courseId, userId) ∈ s.db.enrollments
  assigned : s.standing userId invite = .instructor → ∀ courseId course, invite.courseId = some courseId →
    s.courses.get courseId = some course → course.instructorId = some userId

variable {s : School} {userId : UserId} {inviteToken : String} {invite : Invites.Invite}

/-- The courses for which the link enrols. -/
def School.enrols (s : School) (userId : UserId) (invite : Invites.Invite) : List CourseId :=
  (invite.courseId.filter fun courseId =>
    s.standing userId invite = .student ∧ (courseId, userId) ∉ s.db.enrollments).toList

/-- Whether a use is spent. -/
def School.spent (s : School) (userId : UserId) (invite : Invites.Invite) : Bool :=
  (s.db.memberships.get (userId, invite.organizationId)).isNone || !(s.enrols userId invite).isEmpty

theorem mem_enrols {courseId : CourseId} : courseId ∈ s.enrols userId invite ↔
    invite.courseId = some courseId ∧ s.standing userId invite = .student ∧ (courseId, userId) ∉ s.db.enrollments := by
  unfold School.enrols
  rw [Option.mem_toList, Option.filter_eq_some_iff, decide_eq_true_iff]

theorem joined_enrollments : (s.joined userId inviteToken invite).db.enrollments =
    (s.enrols userId invite).map (·, userId) ++ s.db.enrollments := rfl

theorem joined_invites : (s.joined userId inviteToken invite).db.invites =
    if s.spent userId invite then s.db.invites.modify inviteToken fun i => { i with uses := i.uses + 1 }
    else s.db.invites := rfl

theorem joined_memberships : (s.joined userId inviteToken invite).db.memberships =
    match s.db.memberships.get (userId, invite.organizationId) with
    | some _ => s.db.memberships
    | none => s.db.memberships.insert (userId, invite.organizationId) ⟨invite.role, .active⟩ := rfl

theorem joined_courses : (s.joined userId inviteToken invite).courses =
    assigned s.courses invite.courseId (s.standing userId invite) userId := rfl

theorem joined_courses_of_instructor {courseId : CourseId} (hrole : s.standing userId invite = .instructor)
    (hcourse : invite.courseId = some courseId) : (s.joined userId inviteToken invite).courses =
      s.courses.modify courseId fun c => { c with instructorId := some userId } := by
  rw [joined_courses, hrole, hcourse, assigned_instructor]

theorem standing_of_member {m : Membership} (h : s.db.memberships.get (userId, invite.organizationId) = some m) :
    s.standing userId invite = m.role := by
  unfold School.standing
  rw [h]
  rfl

theorem joined_memberships_of_some {k : UserId × OrganizationId} {m : Membership}
    (h : s.db.memberships.get k = some m) :
    (s.joined userId inviteToken invite).db.memberships.get k = some m := by
  rw [joined_memberships]
  split
  · exact h
  · exact Table.get_insert_of_some h _ _

/-- They have a membership now, with the standing that counted. -/
theorem joined_standing : ∃ m, (s.joined userId inviteToken invite).db.memberships.get
    (userId, invite.organizationId) = some m ∧ m.role = s.standing userId invite := by
  cases h : s.db.memberships.get (userId, invite.organizationId) with
  | some m => exact ⟨m, joined_memberships_of_some h, (standing_of_member h).symm⟩
  | none =>
    refine ⟨⟨invite.role, .active⟩, ?_, ?_⟩
    · rw [joined_memberships, h]
      dsimp only
      rw [Table.get_insert h, if_pos rfl]
    · unfold School.standing
      rw [h]
      rfl

theorem joined_courses_of_settled (h : Settled s userId invite) :
    assigned s.courses invite.courseId (s.standing userId invite) userId = s.courses := by
  by_cases hrole : s.standing userId invite = .instructor
  · cases hcourse : invite.courseId with
    | none => rfl
    | some courseId =>
      rw [hrole, assigned_instructor]
      refine (Table.modify_congr fun course hget => ?_).trans (Table.modify_id _ courseId)
      rw [← h.assigned hrole courseId course hcourse hget]
      rfl
  · exact assigned_of_ne hrole

/-- Then a call changes no row. -/
theorem joined_eq_of_settled (h : Settled s userId invite) : s.joined userId inviteToken invite = s := by
  obtain ⟨m, hm⟩ := h.member
  -- A member who is enrolled already is given nothing, so the uses stay as well.
  have hnone : s.enrols userId invite = [] := by
    refine List.eq_nil_iff_forall_not_mem.2 fun courseId hmem => ?_
    obtain ⟨hcourse, hrole, hnot⟩ := mem_enrols.1 hmem
    exact hnot (h.enrolled hrole courseId hcourse)
  have hinvites : (s.joined userId inviteToken invite).db.invites = s.db.invites := by
    rw [joined_invites]
    unfold School.spent
    rw [hnone, hm]
    rfl
  have henrollments : (s.joined userId inviteToken invite).db.enrollments = s.db.enrollments := by
    rw [joined_enrollments, hnone]
    rfl
  have hmemberships : (s.joined userId inviteToken invite).db.memberships = s.db.memberships := by
    rw [joined_memberships, hm]
  have hdb : (s.joined userId inviteToken invite).db =
      { s.db with memberships := s.db.memberships, enrollments := s.db.enrollments, invites := s.db.invites } := by
    rw [← hinvites, ← henrollments, ← hmemberships]
    rfl
  have hcourses : (s.joined userId inviteToken invite).courses = s.courses := joined_courses_of_settled h
  calc s.joined userId inviteToken invite
      = ⟨(s.joined userId inviteToken invite).db, (s.joined userId inviteToken invite).courses⟩ := rfl
    _ = s := by rw [hdb, hcourses]

theorem standing_joined : (s.joined userId inviteToken invite).standing userId invite = s.standing userId invite := by
  obtain ⟨m, hm, hrole⟩ := @joined_standing s userId inviteToken invite
  rw [standing_of_member hm, hrole]

/-- After a call the link has nothing left to give to this person. -/
theorem joined_settled : Settled (s.joined userId inviteToken invite) userId invite := by
  obtain ⟨m, hm, -⟩ := @joined_standing s userId inviteToken invite
  refine ⟨⟨m, hm⟩, fun hrole courseId hcourse => ?_, fun hrole courseId course hcourse hget => ?_⟩
  · rw [standing_joined] at hrole
    rw [joined_enrollments, List.mem_append]
    by_cases hin : (courseId, userId) ∈ s.db.enrollments
    · exact .inr hin
    · exact .inl (List.mem_map.2 ⟨courseId, mem_enrols.2 ⟨hcourse, hrole, hin⟩, rfl⟩)
  · rw [standing_joined] at hrole
    rw [joined_courses_of_instructor hrole hcourse, Table.get_modify_self] at hget
    obtain ⟨c, -, rfl⟩ := Option.map_eq_some_iff.1 hget
    rfl

/-! ## What is given and what is spent -/

theorem gives_of_spent (h : s.spent userId invite = true) : Gives s (s.joined userId inviteToken invite) userId := by
  unfold School.spent at h
  rw [Bool.or_eq_true] at h
  rcases h with hnone | hcourses
  · obtain ⟨m, hm, -⟩ := @joined_standing s userId inviteToken invite
    refine .inl ⟨invite.organizationId, ?_⟩
    rw [hm, Option.isNone_iff_eq_none.1 hnone]
    exact Option.some_ne_none m
  · have hne : s.enrols userId invite ≠ [] := by
      rintro hnil
      rw [hnil] at hcourses
      cases hcourses
    obtain ⟨courseId, hmem⟩ := List.exists_mem_of_ne_nil _ hne
    refine .inr (.inl ⟨courseId, fun hiff => (mem_enrols.1 hmem).2.2 (hiff.1 ?_)⟩)
    rw [joined_enrollments]
    exact List.mem_append_left _ (List.mem_map.2 ⟨courseId, hmem, rfl⟩)

theorem assigns_iff : s.assigns userId invite = true ↔ ∃ m courseId course,
    s.db.memberships.get (userId, invite.organizationId) = some m ∧ m.role = .instructor ∧
      invite.courseId = some courseId ∧ s.courses.get courseId = some course ∧ course.instructorId ≠ some userId := by
  unfold School.assigns
  rw [Bool.and_eq_true, Option.any_eq_true, Option.any_eq_true]
  constructor
  · rintro ⟨⟨m, hm, hrole⟩, course, hcourse, hother⟩
    obtain ⟨courseId, hcourseId, hget⟩ := Option.bind_eq_some_iff.1 hcourse
    exact ⟨m, courseId, course, hm, of_decide_eq_true hrole, hcourseId, hget, of_decide_eq_true hother⟩
  · rintro ⟨m, courseId, course, hm, hrole, hcourseId, hget, hother⟩
    exact ⟨⟨m, hm, decide_eq_true hrole⟩, course, Option.bind_eq_some_iff.2 ⟨courseId, hcourseId, hget⟩,
      decide_eq_true hother⟩

theorem gives_of_assigns (h : s.assigns userId invite = true) :
    Gives s (s.joined userId inviteToken invite) userId := by
  obtain ⟨m, courseId, course, hm, hrole, hcourseId, hget, hother⟩ := assigns_iff.1 h
  refine .inr (.inr ⟨courseId, fun heq => hother ?_⟩)
  rw [joined_courses_of_instructor ((standing_of_member hm).trans hrole) hcourseId, Table.get_modify_self, hget] at heq
  exact congrArg Course.instructorId (Option.some.inj heq.symm)

/-- Where nothing is spent and nobody is assigned, there was nothing to give. -/
theorem settled_of_not_spent (hspent : s.spent userId invite = false) (hassigns : s.assigns userId invite = false) :
    Settled s userId invite := by
  unfold School.spent at hspent
  rw [Bool.or_eq_false_iff, Bool.not_eq_false', List.isEmpty_iff] at hspent
  obtain ⟨m, hm⟩ := Option.ne_none_iff_exists'.1 (Option.isNone_eq_false_iff.1 hspent.1 |> Option.isSome_iff_ne_none.1)
  refine ⟨⟨m, hm⟩, fun hrole courseId hcourse => ?_, fun hrole courseId course hcourse hget => ?_⟩
  · by_contra hnot
    have hmem : courseId ∈ s.enrols userId invite := mem_enrols.2 ⟨hcourse, hrole, hnot⟩
    rw [hspent.2] at hmem
    cases hmem
  · by_contra hother
    rw [standing_of_member hm] at hrole
    rw [assigns_iff.2 ⟨m, courseId, course, hm, hrole, hcourse, hget, hother⟩] at hassigns
    cases hassigns

theorem not_gives_self : ¬Gives s s userId := by
  rintro (⟨organizationId, h⟩ | ⟨courseId, h⟩ | ⟨courseId, h⟩)
  · exact h rfl
  · exact h Iff.rfl
  · exact h rfl

/-- A call gives something just when it spends a use or assigns an instructor. -/
theorem gives_iff : Gives s (s.joined userId inviteToken invite) userId ↔
    s.spent userId invite = true ∨ s.assigns userId invite = true := by
  constructor
  · intro hgives
    by_contra hnot
    rw [not_or, Bool.not_eq_true, Bool.not_eq_true] at hnot
    rw [joined_eq_of_settled (settled_of_not_spent hnot.1 hnot.2)] at hgives
    exact not_gives_self hgives
  · rintro (h | h)
    · exact gives_of_spent h
    · exact gives_of_assigns h

/-- An assignment is of someone who is here and is no student, so no use goes with it. -/
theorem not_spent_of_assigns (h : s.assigns userId invite = true) : s.spent userId invite = false := by
  obtain ⟨m, courseId, course, hm, hrole, -, -, -⟩ := assigns_iff.1 h
  have hnone : s.enrols userId invite = [] := by
    refine List.eq_nil_iff_forall_not_mem.2 fun c hmem => ?_
    have hstudent := (mem_enrols.1 hmem).2.1
    rw [standing_of_member hm, hrole] at hstudent
    cases hstudent
  unfold School.spent
  rw [hm, hnone]
  rfl

/-! ## Every database -/

theorem joined_linked (hs : Linked s.db) (huser : ∃ user, s.db.users.get userId = some user) :
    Linked (s.joined userId inviteToken invite).db := by
  intro k m hm
  rw [joined_memberships] at hm
  show ∃ user, s.db.users.get k.1 = some user
  split at hm
  · exact hs k m hm
  · rcases Table.get_insert_cases hm with hm | ⟨rfl, -⟩
    · exact hs k m hm
    · exact huser

theorem joinWorkspace_linked (hs : Linked s.db) : Linked (s.joinWorkspace userId inviteToken).1.db := by
  rcases joinWorkspace_cases hs userId inviteToken with ⟨e, he⟩ | ⟨invite, user, -, huser, hok⟩
  · rw [he]
    exact hs
  · rw [hok]
    exact joined_linked hs ⟨user, huser⟩

/-- Accounts stay, and a membership that is not an old one is of an account. -/
theorem linked_of {db db' : Db} (hdb : Linked db)
    (husers : ∀ id user, db.users.get id = some user → ∃ user', db'.users.get id = some user')
    (hmembers : ∀ k m, db'.memberships.get k = some m →
      db.memberships.get k = some m ∨ ∃ user, db'.users.get k.1 = some user) : Linked db' := by
  intro k m hm
  rcases hmembers k m hm with hold | huser
  · obtain ⟨user, huser⟩ := hdb k m hold
    exact husers k.1 user huser
  · exact huser

theorem create_linked {db : Db} {account : Account} {role : Role} {organizationId : OrganizationId}
    (hdb : Linked db) (hfree : db.users.get account.id = none) : Linked (db.create account role organizationId) := by
  refine linked_of hdb (fun id user huser => ⟨user, Table.get_insert_of_some huser _ _⟩) fun k m hm => ?_
  rcases Table.get_insert_cases hm with hold | ⟨rfl, -⟩
  · exact .inl hold
  · refine .inr ⟨account.user role organizationId, ?_⟩
    show (db.users.insert account.id (account.user role organizationId)).get account.id = _
    rw [Table.get_insert hfree, if_pos rfl]

theorem modify_linked {db : Db} {id : UserId} {f : User → User} (hdb : Linked db) :
    Linked { db with users := db.users.modify id f } := by
  refine linked_of hdb (fun id' user huser => ?_) fun k m hm => .inl hm
  show ∃ user', (db.users.modify id f).get id' = some user'
  rw [Table.get_modify, huser]
  split
  · exact ⟨f user, rfl⟩
  · exact ⟨user, rfl⟩

theorem assertFree_ok {db : Db} {account : Account} {u : Unit} (h : db.assertFree account = .ok u) :
    db.users.get account.id = none := by
  obtain ⟨-, -, h⟩ := bind_ok_iff.1 h
  exact ensure_ok_iff.1 h

variable {verify : String → String → Bool}

theorem call_linked {db db' : Db} {ev : Auth.Event} (hdb : Linked db)
    (hjoin : ∀ id token, ev ≠ .enter (.joinWorkspace id token)) (h : db.call verify ev = .ok db') : Linked db' := by
  cases ev with
  | enter door =>
    cases door with
    | joinWorkspace id token => exact absurd rfl (hjoin id token)
    | login email password | sessionFor id | switchWorkspace id organizationId =>
      obtain ⟨r, hr, rfl⟩ := map_ok_iff.1 h
      obtain ⟨token, -, rfl⟩ := map_ok_iff.1 hr
      exact hdb
  | register account token =>
    obtain ⟨u, hfree, h⟩ := bind_ok_iff.1 h
    obtain ⟨invite, -, h⟩ := bind_ok_iff.1 h
    cases h
    have hcreated : Linked (db.create account invite.role invite.organizationId) :=
      create_linked hdb (assertFree_ok hfree)
    exact hcreated
  | registerOrganization account organizationId =>
    obtain ⟨u, hfree, h⟩ := bind_ok_iff.1 h
    cases h
    exact create_linked hdb (assertFree_ok hfree)
  | createWorkspace userId organizationId =>
    obtain ⟨user, huser, h⟩ := bind_ok_iff.1 h
    cases h
    refine linked_of hdb (fun id user huser => ⟨user, huser⟩) fun k m hm => ?_
    rcases Table.get_insert_cases hm with hold | ⟨rfl, -⟩
    · exact .inl hold
    · exact .inr ⟨user, orThrow_ok_iff.1 huser⟩
  | setMemberStatus orgId memberId status =>
    obtain ⟨member, -, h⟩ := bind_ok_iff.1 h
    obtain ⟨u, -, h⟩ := bind_ok_iff.1 h
    cases h
    exact modify_linked hdb
  | setUserStatus actor userId status =>
    obtain ⟨user, -, h⟩ := bind_ok_iff.1 h
    obtain ⟨u, -, h⟩ := bind_ok_iff.1 h
    cases h
    exact modify_linked hdb
  | setUserRole userId role =>
    obtain ⟨user, -, h⟩ := bind_ok_iff.1 h
    cases h
    exact modify_linked hdb
  | createInvite token invite => cases h; exact hdb
  | revokeInvite token => cases h; exact hdb
  | tick ms => cases h; exact hdb

theorem orKeep_linked {x : Except Failure School} (hs : Linked s.db) (hx : ∀ s', x = .ok s' → Linked s'.db) :
    Linked (s.orKeep x).db := by
  cases x with
  | error e => exact hs
  | ok s' => exact hx s' rfl

theorem register_linked {account : Account} {s' : School} (hs : Linked s.db)
    (h : s.register account inviteToken = .ok s') : Linked s'.db := by
  obtain ⟨db, hdb, h⟩ := bind_ok_iff.1 h
  obtain ⟨invite, -, h⟩ := bind_ok_iff.1 h
  have hcall : s.db.call (fun _ _ => true) (.register account inviteToken) = .ok db := mapError_ok_iff.1 hdb
  have hlinked : Linked db := call_linked hs (by rintro id token ⟨⟩) hcall
  cases hcourse : invite.courseId with
  | none =>
    rw [hcourse] at h
    cases h
    exact hlinked
  | some courseId =>
    rw [hcourse] at h
    dsimp only at h
    split at h
    · obtain ⟨course, -, h⟩ := bind_ok_iff.1 h
      cases h
      exact hlinked
    · obtain ⟨u, -, h⟩ := bind_ok_iff.1 h
      cases h
      exact hlinked

theorem step_linked {ev : Event} {s' : School} (hs : Linked s.db) (h : step verify s ev = some s') :
    Linked s'.db := by
  cases h
  cases ev with
  | auth ev =>
    by_cases hjoin : ∃ id token, ev = .enter (.joinWorkspace id token)
    · obtain ⟨id, token, rfl⟩ := hjoin
      exact joinWorkspace_linked hs
    -- What the doors' step leaves, for the calls that are the same here.
    have hdoors : Linked ((s.db.call verify ev).toOption.getD s.db) := by
      cases hcall : s.db.call verify ev with
      | error e => exact hs
      | ok db => exact call_linked hs (fun id token heq => hjoin ⟨id, token, heq⟩) hcall
    cases ev with
    | enter door =>
      cases door with
      | joinWorkspace id token => exact absurd ⟨id, token, rfl⟩ hjoin
      | _ => exact hdoors
    | register account token => exact orKeep_linked hs fun s' h => register_linked hs h
    | createInvite token invite =>
      refine orKeep_linked hs fun s' h => ?_
      obtain ⟨u, -, h⟩ := bind_ok_iff.1 h
      obtain ⟨u, -, h⟩ := bind_ok_iff.1 h
      cases h
      exact hs
    | _ => exact hdoors
  | enroll courseId studentId =>
    show Linked (if (courseId, studentId) ∈ s.db.enrollments then s
      else s.orKeep (s.createEnrollment courseId studentId)).db
    split
    · exact hs
    · refine orKeep_linked hs fun s' h => ?_
      obtain ⟨u, -, h⟩ := bind_ok_iff.1 h
      cases h
      exact hs
  | _ => exact hs

theorem run_linked {es : List Event} (hrun : run (step verify) empty es = some s) : Linked s.db :=
  run_keeps (fun _ _ _ => step_linked) (by rintro k m ⟨⟩) hrun

/-! ## Joining -/

theorem usable_get {now : Nat} {found : Option Invites.Invite} (h : Invites.assertInviteUsable found now = .ok invite) :
    found = some invite := by
  obtain ⟨i, hi, h⟩ := bind_ok_iff.1 h
  obtain ⟨u, -, h⟩ := bind_ok_iff.1 h
  obtain ⟨u, -, h⟩ := bind_ok_iff.1 h
  obtain ⟨u, -, h⟩ := bind_ok_iff.1 h
  cases h
  exact (Option.filter_eq_some_iff.1 (orThrow_ok_iff.1 hi)).1

/-- A link that is there after a call is the same, but for its uses. -/
theorem joined_invite {i : Invites.Invite} (hget : s.db.invites.get inviteToken = some invite)
    (h : (s.joined userId inviteToken invite).db.invites.get inviteToken = some i) :
    i.organizationId = invite.organizationId ∧ i.role = invite.role ∧ i.courseId = invite.courseId := by
  rw [joined_invites] at h
  split at h
  · rw [Table.get_modify_self, hget] at h
    cases h
    exact ⟨rfl, rfl, rfl⟩
  · rw [hget] at h
    cases h
    exact ⟨rfl, rfl, rfl⟩

theorem Settled.congr {i : Invites.Invite} (h : Settled s userId invite)
    (hi : i.organizationId = invite.organizationId ∧ i.role = invite.role ∧ i.courseId = invite.courseId) :
    Settled s userId i := by
  obtain ⟨horganization, hrole, hcourse⟩ := hi
  have hstanding : s.standing userId i = s.standing userId invite := by
    unfold School.standing
    rw [horganization, hrole]
  refine ⟨?_, ?_, ?_⟩
  · rw [horganization]
    exact h.member
  · rw [hstanding, hcourse]
    exact h.enrolled
  · rw [hstanding, hcourse]
    exact h.assigned

/-- Calling again changes nothing, however long it takes. -/
theorem joined_again (hs : Linked s.db) (hget : s.db.invites.get inviteToken = some invite)
    (huser : ∃ user, s.db.users.get userId = some user) (ms : Nat) :
    (((s.joined userId inviteToken invite).wait ms).joinWorkspace userId inviteToken).1 =
      (s.joined userId inviteToken invite).wait ms := by
  have hjoined : Linked (s.joined userId inviteToken invite).db := joined_linked hs huser
  have hlinked : Linked ((s.joined userId inviteToken invite).wait ms).db := hjoined
  rcases joinWorkspace_cases hlinked userId inviteToken with ⟨e, he⟩ | ⟨i, user, hi, -, hok⟩
  · rw [he]
  · rw [hok]
    have hjoined : Settled (s.joined userId inviteToken invite) userId invite := joined_settled
    have hsettled : Settled ((s.joined userId inviteToken invite).wait ms) userId invite :=
      ⟨hjoined.member, hjoined.enrolled, hjoined.assigned⟩
    exact joined_eq_of_settled (hsettled.congr (joined_invite hget (usable_get hi)))

theorem joined_get_memberships {k : UserId × OrganizationId}
    (hk : (∃ m, s.db.memberships.get k = some m) ∨ k.1 ≠ userId) :
    (s.joined userId inviteToken invite).db.memberships.get k = s.db.memberships.get k := by
  rcases hk with ⟨m, hm⟩ | hne
  · rw [joined_memberships_of_some hm, hm]
  · rw [joined_memberships]
    split
    · rfl
    · rename_i hnone
      rw [Table.get_insert hnone, if_neg]
      rintro rfl
      exact hne rfl

theorem joined_students {e : CourseId × UserId}
    (h : ¬(e ∈ (s.joined userId inviteToken invite).db.enrollments ↔ e ∈ s.db.enrollments)) :
    e.2 = userId ∧ invite.courseId = some e.1 ∧
      ∃ m, (s.joined userId inviteToken invite).db.memberships.get (userId, invite.organizationId) = some m ∧
        m.role = .student := by
  rw [joined_enrollments, List.mem_append] at h
  have hmem : e ∈ (s.enrols userId invite).map (·, userId) := by
    by_contra hnot
    exact h ⟨fun hor => hor.resolve_left hnot, .inr⟩
  obtain ⟨courseId, hcourse, rfl⟩ := List.mem_map.1 hmem
  obtain ⟨hcourseId, hrole, -⟩ := mem_enrols.1 hcourse
  obtain ⟨m, hm, hmrole⟩ := @joined_standing s userId inviteToken invite
  exact ⟨rfl, hcourseId, m, hm, hmrole.trans hrole⟩

theorem joined_course {courseId : CourseId}
    (h : (s.joined userId inviteToken invite).courses.get courseId ≠ s.courses.get courseId) :
    invite.courseId = some courseId := by
  by_contra hnot
  refine h ?_
  rw [joined_courses]
  by_cases hrole : s.standing userId invite = .instructor
  · cases hcourse : invite.courseId with
    | none => rfl
    | some c =>
      rw [hrole, assigned_instructor, Table.get_modify_of_ne]
      rintro rfl
      exact hnot hcourse
  · rw [assigned_of_ne hrole]

/-- A call by an instructor that assigns a course is not refused. -/
theorem transaction_assigns
    (hinvite : Invites.assertInviteUsable (s.db.invites.get inviteToken) s.db.now = .ok invite)
    (h : s.assigns userId invite = true) : ∃ r, s.transaction userId inviteToken = .ok r := by
  obtain ⟨m, courseId, course, hm, hrole, hcourseId, hget, -⟩ := assigns_iff.1 h
  have hmember : s.grantMembership userId invite (some m) = .ok (s, false) := rfl
  have hassign : s.grantCourse userId invite m.role false = .ok (s.setInstructor courseId (some userId), false) := by
    have hupdate : s.updateCourse courseId userId = .ok (s.setInstructor courseId (some userId)) := by
      unfold School.updateCourse
      rw [hget]
      rfl
    unfold School.grantCourse
    rw [hcourseId, hrole]
    dsimp only
    rw [hupdate]
    rfl
  refine ⟨(s.setInstructor courseId (some userId), invite.organizationId, m.role), ?_⟩
  unfold School.transaction
  rw [mapError_ok_iff.2 hinvite, ok_bind]
  dsimp only
  rw [hm, hmember, ok_bind]
  show (s.grantCourse userId invite m.role false >>= _) = _
  rw [hassign]
  rfl

/-- A call that is refused. -/
theorem joins_of_refused {e : Failure} (he : s.joinWorkspace userId inviteToken = (s, .error e)) :
    Joins s userId inviteToken := by
  constructor
  · intro _ _
    rw [he]
  · intro payload h
    rw [he] at h
    cases h
  · intro payload ms h
    rw [he] at h
    cases h
  · intro k _
    rw [he]
  · intro x h
    rw [he] at h
    exact absurd Iff.rfl h
  · intro courseId h
    rw [he] at h
    exact absurd rfl h

/-- A call that goes through and assigns nobody. -/
theorem joins_of_joined {user : User} {payload : JwtPayload} (hs : Linked s.db)
    (hget : s.db.invites.get inviteToken = some invite) (huser : s.db.users.get userId = some user)
    (hok : s.joinWorkspace userId inviteToken = (s.joined userId inviteToken invite, .ok payload))
    (hassigns : s.assigns userId invite = false) : Joins s userId inviteToken := by
  constructor
  · intro e h
    rw [hok] at h
    cases h
  · intro payload _
    rw [hok]
    cases hspent : s.spent userId invite with
    | true =>
      refine .inl ⟨invite, hget, ?_, gives_of_spent hspent⟩
      rw [joined_invites, hspent, if_pos rfl]
    | false =>
      refine .inr ⟨?_, fun hgives => ?_⟩
      · rw [joined_invites, hspent, if_neg Bool.false_ne_true]
      · rcases gives_iff.1 hgives with h | h
        · rw [hspent] at h
          cases h
        · rw [hassigns] at h
          cases h
  · intro payload ms _
    rw [hok]
    exact joined_again hs hget ⟨user, huser⟩ ms
  · intro k hk
    rw [hok]
    exact joined_get_memberships hk
  · intro x h
    rw [hok] at h ⊢
    obtain ⟨hx, hcourse, m, hm, hrole⟩ := joined_students h
    exact ⟨hx, invite, m, hget, hcourse, hm, hrole⟩
  · intro courseId h
    rw [hok] at h
    exact ⟨invite, hget, joined_course h⟩

/-- A call that assigns an instructor gives them a course, and the uses are what they were. -/
theorem not_joins_of_assigns (hs : Linked s.db)
    (hinvite : Invites.assertInviteUsable (s.db.invites.get inviteToken) s.db.now = .ok invite)
    (hassigns : s.assigns userId invite = true) : ¬Joins s userId inviteToken := by
  intro h
  obtain ⟨r, hr⟩ := transaction_assigns hinvite hassigns
  obtain ⟨i, user, hi, -, hok⟩ := joinWorkspace_of_transaction hs hr
  cases hinvite.symm.trans hi
  have hspends := h.spends _ (congrArg Prod.snd hok)
  rw [hok] at hspends
  -- `granted` is not set where the instructor is assigned, so no use would be counted.
  rcases hspends with ⟨i, hget, hinvites, -⟩ | ⟨-, hnot⟩
  · rw [joined_invites, not_spent_of_assigns hassigns, if_neg Bool.false_ne_true] at hinvites
    have hsame := congrArg (fun t => t.get inviteToken) hinvites
    simp only [Table.get_modify_self, hget, Option.map_some, Option.some.injEq] at hsame
    have huses : i.uses = i.uses + 1 := congrArg Invites.Invite.uses hsame
    omega
  · exact hnot (gives_of_assigns hassigns)

theorem joins_iff (hs : Linked s.db) : Joins s userId inviteToken ↔ s.silentAssign userId inviteToken = false := by
  unfold School.silentAssign
  constructor
  · intro h
    by_contra hsilent
    rw [Bool.not_eq_false, Option.any_eq_true] at hsilent
    obtain ⟨invite, hinvite, hassigns⟩ := hsilent
    exact not_joins_of_assigns hs (toOption_eq_some.1 hinvite) hassigns h
  · intro hsilent
    rcases joinWorkspace_cases hs userId inviteToken with ⟨e, he⟩ | ⟨invite, user, hinvite, huser, hok⟩
    · exact joins_of_refused he
    · rw [toOption_eq_some.2 hinvite, Option.any_some] at hsilent
      exact joins_of_joined hs (usable_get hinvite) huser hok hsilent

/-- In every database that the calls reach, anyone who opens any link joins as expected, except an instructor of
the organization whom the link makes the instructor of its course: this spends no use. -/
theorem joinWorkspace_spends_iff {es : List Event} (hrun : run (step verify) empty es = some s)
    (userId : UserId) (inviteToken : String) :
    Joins s userId inviteToken ↔ s.silentAssign userId inviteToken = false :=
  joins_iff (run_linked hrun)

namespace Example

/-- An organization with one course, an instructor who came in by a link for staff, and a link to the course for
five students. -/
def opening : List Event :=
  [.auth (.registerOrganization ⟨"zaid", "Zaid", "zaid@example.org", "hash"⟩ "acme"),
    .createCourse "arabic" ⟨"acme", none⟩,
    .auth (.createInvite "staff" ⟨"acme", .instructor, none, none, 0, none, none⟩),
    .auth (.register ⟨"bilal", "Bilal", "bilal@example.org", "hash"⟩ "staff"),
    .auth (.createInvite "arabic-link" ⟨"acme", .student, some "arabic", some 5, 0, none, none⟩)]

def anyPassword : String → String → Bool := fun _ _ => true

def school : School := opening.foldl (School.call anyPassword) empty

theorem opening_run : run (step anyPassword) empty opening = some school := rfl

end Example

open Example in
/-- The link for staff has nothing more for the instructor. -/
theorem staff_joins : Joins school "bilal" "staff" :=
  (joinWorkspace_spends_iff opening_run "bilal" "staff").2 (by decide)

open Example in
/-- The instructor opens the link for students: the course gets an instructor, and the link keeps all its uses. -/
theorem course_taken_unspent : run (step anyPassword) empty opening = some school ∧
    school.courses.get "arabic" = some ⟨"acme", none⟩ ∧
    (school.joinWorkspace "bilal" "arabic-link").1.courses.get "arabic" = some ⟨"acme", some "bilal"⟩ ∧
    ((school.joinWorkspace "bilal" "arabic-link").1.db.invites.get "arabic-link").map (·.uses) = some 0 ∧
    ¬Joins school "bilal" "arabic-link" := by
  refine ⟨opening_run, by decide, by decide, by decide, fun hjoins => ?_⟩
  have hsilent := (joins_iff (run_linked opening_run)).1 hjoins
  exact absurd hsilent (by decide)

end Livetich.Auth.Joining
