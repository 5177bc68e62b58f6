/-
Who is let into a class, at its five doors: `onJoin` of the room, code, terminal and tunnel gateways, and
`ProxyController.forward`. Each writes the rule for instructors, admins and students out for itself.
-/
import Livetich.Auth.Silence
import Livetich.Lib.Checked

namespace Livetich.Auth.Policy

open TransSys Silence Lib

/-! ## The doors -/

/-- What there is to read when somebody asks to be let in. -/
structure Visit where
  sessionId : SessionId
  port : Nat
  /-- What `getState` returns for the user. -/
  account : Option AccountState
  reads : Sockets.JoinReads

/-- The checks a gateway makes: `authenticate` of the account, and `onJoin` of what it reads. -/
def enters (nsp : Nsp) (user : JwtPayload) (visit : Visit) : Bool :=
  permitted visit.account && (Sock.new nsp user).letIn visit.sessionId visit.reads

/-- A status code with the text sent. -/
structure Refusal where
  status : Nat
  message : String
  deriving DecidableEq

/-- `forward` tests an id for being missing by its truth value. -/
def falsy (organizationId : Option OrganizationId) : Bool :=
  match organizationId with
  | none => true
  | some id => id.isEmpty

/-- The ownership test of `forward`. -/
def ownsOrEnrolled (user : JwtPayload) (course : CourseRef) (enrolled : Bool) : Except Refusal Unit :=
  match user.role with
  | .instructor => ensure (course.instructorId = some user.sub) ⟨403, "Not your session"⟩
  | .orgAdmin =>
    ensure (¬ (falsy user.organizationId ∨ course.organizationId ≠ user.organizationId))
      ⟨403, "Not your organisation session"⟩
  | .student => ensure enrolled ⟨403, "Not enrolled in course"⟩

/-- `forward` from the verified token to the point where it looks for the host of the port. -/
def forward (user : JwtPayload) (visit : Visit) : Except Refusal LiveSession := do
  ensure (∀ p ∈ user.preview, p.sessionId = visit.sessionId ∧ p.port = visit.port)
    ⟨403, "Preview token is not valid for this session or port"⟩
  ensure (user.recorder = none) ⟨401, "Recorder tokens cannot access forwarded ports"⟩
  let account ← orThrow (visit.account.filter (·.status ≠ .disabled)) ⟨401, "This account is not permitted"⟩
  ensure account.emailVerified ⟨403, "Email not verified"⟩
  let session ← orThrow (visit.reads.session.filter (·.status ≠ .ended)) ⟨404, "Session not found or ended"⟩
  ownsOrEnrolled user session.course visit.reads.enrolled
  return session

inductive Door
  | room
  | code
  | terminal
  | tunnel
  | proxy
  deriving DecidableEq

def Door.admits (user : JwtPayload) (visit : Visit) : Door → Bool
  | .room => enters .root user visit
  | .code => enters .code user visit
  | .terminal => enters .terminal user visit
  | .tunnel => enters .tunnel user visit
  | .proxy => (forward user visit).isOk

/-! ## A gateway's checks and its sockets -/

theorem letIn_setTeaching (k : Sock) (teach : Bool) (sessionId : SessionId) (reads : Sockets.JoinReads) :
    (k.setTeaching teach).letIn sessionId reads = k.letIn sessionId reads := by
  unfold Sock.setTeaching
  split
  · rfl
  · rfl

theorem sessionIds_setTeaching (k : Silence.Sock) (teach : Bool) : (k.setTeaching teach).sessionIds = k.sessionIds := by
  unfold Sock.setTeaching
  split
  · rfl
  · rfl

/-- A call of `onJoin` that reads the visit puts a socket in the session just when its checks pass. -/
theorem resume_enters_iff {s s₁ : Silence.State} {i c : Nat} {k : Sock} {teach : Bool} {visit : Visit}
    (hjoin : s.joins.get i = some (.account c visit.sessionId teach)) (hk : s.sockets.get c = some k)
    (hready : k.authReady = some (permitted visit.account)) (hout : visit.sessionId ∉ k.sessionIds)
    (h : Silence.step s (.resume i visit.reads) = some s₁) :
    enters k.nsp k.user visit = true ↔
      ∃ s₂ k', Silence.step s₁ (.resume i visit.reads) = some s₂ ∧ s₂.sockets.get c = some k' ∧
        visit.sessionId ∈ k'.sessionIds := by
  have hletIn : (Sock.new k.nsp k.user).letIn visit.sessionId visit.reads = k.letIn visit.sessionId visit.reads := rfl
  have hnot : (k.nsp != .root && k.sessionIds.contains visit.sessionId) = false := by
    rw [List.contains_eq_mem, decide_eq_false hout, Bool.and_false]
  unfold enters
  rw [hletIn]
  cases hok : permitted visit.account with
  | false =>
    -- the account check has ended the call
    simp only [Silence.step, hjoin, Option.bind_some, Silence.resume, hk, hready, hok, Option.map_some, Bool.not_false,
      Bool.true_or, if_true, Option.some.injEq] at h
    subst h
    constructor
    · rintro ⟨⟩
    · rintro ⟨s₂, k', h₂, -, -⟩
      simp [Silence.step, State.goto] at h₂
  | true =>
    simp only [Silence.step, hjoin, Option.bind_some, Silence.resume, hk, hready, hok, Option.map_some, hnot,
      Bool.not_true, Bool.or_false, Bool.false_eq_true, if_false, Option.some.injEq] at h
    subst h
    have hread : (s.goto i (some (.reads c visit.sessionId teach))).joins.get i =
        some (.reads c visit.sessionId teach) := Pool.get_put_self ..
    have hsocks : (s.goto i (some (.reads c visit.sessionId teach))).sockets.get c = some k := hk
    simp only [Silence.step, hread, Option.bind_some, Silence.resume, hsocks, Option.map_some, letIn_setTeaching,
      Bool.true_and]
    constructor
    · intro hin
      rw [if_pos hin]
      refine ⟨_, _, rfl, Pool.get_put_self .., ?_⟩
      exact List.mem_append_right _ (List.mem_singleton_self _)
    · rintro ⟨s₂, k', h₂, hk', hin⟩
      by_contra hno
      rw [if_neg hno] at h₂
      cases h₂
      cases Option.some.inj ((Pool.get_put_self ..).symm.trans hk')
      rw [sessionIds_setTeaching] at hin
      exact hout hin

/-! ## The policy -/

/-- A student enters where they are enrolled, an instructor where the course is theirs, and an admin where it is of
their own organization. -/
def MayEnter (user : JwtPayload) (course : CourseRef) (enrolled : Bool) : Prop :=
  match user.role with
  | .student => enrolled = true
  | .instructor => course.instructorId = some user.sub
  | .orgAdmin => ∃ organizationId, user.organizationId = some organizationId ∧
      course.organizationId = some organizationId

/-- What the room asks of a user by their role. -/
def RoomRule (user : JwtPayload) (course : CourseRef) (enrolled : Bool) : Prop :=
  match user.role with
  | .student => enrolled = true
  | .instructor => course.instructorId = some user.sub
  | .orgAdmin => course.organizationId = user.organizationId

/-- What the code, terminal and tunnel gateways ask. -/
def EditorRule (user : JwtPayload) (course : CourseRef) (enrolled : Bool) : Prop :=
  match user.role with
  | .student => enrolled = true
  | .instructor => course.instructorId = some user.sub ∨ course.organizationId = user.organizationId
  | .orgAdmin => course.organizationId = user.organizationId

/-- What the proxy asks. -/
def ProxyRule (user : JwtPayload) (course : CourseRef) (enrolled : Bool) : Prop :=
  match user.role with
  | .student => enrolled = true
  | .instructor => course.instructorId = some user.sub
  | .orgAdmin => falsy user.organizationId = false ∧ course.organizationId = user.organizationId

def Door.Rule : Door → JwtPayload → CourseRef → Bool → Prop
  | .room => RoomRule
  | .code | .terminal | .tunnel => EditorRule
  | .proxy => ProxyRule

section Rules

variable {user : JwtPayload} {visit : Visit} {session : LiveSession}

theorem room_admits_iff (hrecorder : user.recorder = none) (hsession : visit.reads.session = some session)
    (hopen : session.status ≠ .ended) : enters .root user visit = true ↔
      permitted visit.account = true ∧ RoomRule user session.course visit.reads.enrolled := by
  have hrec : Room.Membership.isRecorder user visit.sessionId = false := by
    unfold Room.Membership.isRecorder
    rw [hrecorder]
    rfl
  have hopen' : (session.status != .ended) = true := bne_iff_ne.2 hopen
  unfold enters RoomRule
  rw [Bool.and_eq_true]
  refine and_congr_right fun _ => ?_
  simp only [Sock.letIn, Sock.new, hsession, Option.any_some, hopen', Bool.true_and, Room.Membership.verdict, hrec,
    hrecorder, Option.isSome_none, Bool.false_and, Bool.false_eq_true, if_false]
  cases user.role with
  | student => rfl
  | instructor => by_cases h : session.course.instructorId = some user.sub <;> simp [h]
  | orgAdmin => by_cases h : session.course.organizationId = user.organizationId <;> simp [h]

theorem door_isOk_iff (hsession : visit.reads.session = some session) (hopen : session.status ≠ .ended)
    (hcode : Sockets.isEnabledForCourse session.course Sockets.pluginCodeInstruction visit.reads.orgEnabled = true) :
    (Sockets.door user visit.reads).isOk = true ↔ EditorRule user session.course visit.reads.enrolled := by
  unfold Sockets.door EditorRule
  simp only [hsession, hopen, hcode, if_false, Bool.not_true, Bool.false_eq_true]
  cases user.role with
  | student => cases visit.reads.enrolled <;> simp [Except.isOk, Except.toBool]
  | instructor =>
    by_cases h : session.course.instructorId = some user.sub
    · simp [h, Except.isOk, Except.toBool]
    · by_cases ho : session.course.organizationId = user.organizationId <;> simp [h, ho, Except.isOk, Except.toBool]
  | orgAdmin =>
    by_cases h : session.course.organizationId = user.organizationId <;> simp [h, Except.isOk, Except.toBool]

theorem ownsOrEnrolled_ok_iff {course : CourseRef} {enrolled : Bool} {u : Unit} :
    ownsOrEnrolled user course enrolled = .ok u ↔ ProxyRule user course enrolled := by
  unfold ownsOrEnrolled ProxyRule
  cases user.role with
  | student => exact ensure_ok_iff
  | instructor => exact ensure_ok_iff
  | orgAdmin =>
    dsimp only
    rw [ensure_ok_iff, not_or, not_not, Bool.not_eq_true]

theorem permitted_iff {account : Option AccountState} :
    permitted account = true ↔ ∃ a, account.filter (·.status ≠ .disabled) = some a ∧ a.emailVerified = true := by
  cases account with
  | none => simp [permitted]
  | some a => simp [permitted, Option.filter_eq_some_iff]

theorem proxy_admits_iff (hrecorder : user.recorder = none) (hpreview : user.preview = none)
    (hsession : visit.reads.session = some session) (hopen : session.status ≠ .ended) :
    (forward user visit).isOk = true ↔
      permitted visit.account = true ∧ ProxyRule user session.course visit.reads.enrolled := by
  have hlive : visit.reads.session.filter (·.status ≠ .ended) = some session := by
    rw [hsession, Option.filter_some, decide_eq_true hopen]
    rfl
  rw [isOk_iff, permitted_iff]
  unfold forward
  simp only [bind_ok_iff, ensure_ok_iff, orThrow_ok_iff, hlive, ownsOrEnrolled_ok_iff]
  constructor
  · rintro ⟨a, _, _, _, _, account, haccount, _, hverified, s, hs, _, howns, -⟩
    cases hs
    exact ⟨⟨account, haccount, hverified⟩, howns⟩
  · rintro ⟨⟨account, haccount, hverified⟩, howns⟩
    refine ⟨session, (), ?_, (), hrecorder, account, haccount, (), hverified, session, rfl, (), howns, rfl⟩
    rw [hpreview]
    rintro p ⟨⟩

/-- A door asks the account, and then its rule. -/
theorem admits_iff (hrecorder : user.recorder = none) (hpreview : user.preview = none)
    (hsession : visit.reads.session = some session) (hopen : session.status ≠ .ended)
    (hcode : Sockets.isEnabledForCourse session.course Sockets.pluginCodeInstruction visit.reads.orgEnabled = true)
    (door : Door) : door.admits user visit = true ↔
      permitted visit.account = true ∧ door.Rule user session.course visit.reads.enrolled := by
  have heditor : (permitted visit.account && (Sockets.door user visit.reads).isOk) = true ↔
      permitted visit.account = true ∧ EditorRule user session.course visit.reads.enrolled := by
    rw [Bool.and_eq_true, door_isOk_iff hsession hopen hcode]
  cases door with
  | room => exact room_admits_iff hrecorder hsession hopen
  | code => exact heditor
  | terminal => exact heditor
  | tunnel => exact heditor
  | proxy => exact proxy_admits_iff hrecorder hpreview hsession hopen

end Rules

/-! ## Where the doors agree -/

/-- The course and the user have the same organization, or neither has one, and yet the course is not theirs. -/
def Astray (user : JwtPayload) (course : CourseRef) : Prop :=
  course.organizationId = user.organizationId ∧ match user.role with
    | .student => False
    | .instructor => course.instructorId ≠ some user.sub
    | .orgAdmin => falsy user.organizationId = true

section Agree

variable {user : JwtPayload} {course : CourseRef} {enrolled : Bool}

theorem editorRule_of_astray (h : Astray user course) :
    EditorRule user course enrolled := by
  obtain ⟨horg, hrole⟩ := h
  unfold EditorRule
  cases hr : user.role with
  | student =>
    rw [hr] at hrole
    exact hrole.elim
  | instructor => exact .inr horg
  | orgAdmin => exact horg

theorem not_proxyRule_of_astray (h : Astray user course) :
    ¬ ProxyRule user course enrolled := by
  obtain ⟨-, hrole⟩ := h
  unfold ProxyRule
  cases hr : user.role with
  | student =>
    rw [hr] at hrole
    exact hrole.elim
  | instructor =>
    rw [hr] at hrole
    exact hrole
  | orgAdmin =>
    rw [hr] at hrole
    rintro ⟨hnot, -⟩
    rw [hrole] at hnot
    cases hnot

theorem falsy_eq_false (h : ¬ Astray user course) (hr : user.role = .orgAdmin)
    (horg : course.organizationId = user.organizationId) : falsy user.organizationId = false := by
  refine Bool.eq_false_iff.2 fun hfalsy => h ⟨horg, ?_⟩
  rw [hr]
  exact hfalsy

theorem mayEnter_orgAdmin_iff (h : ¬ Astray user course) (hr : user.role = .orgAdmin) :
    MayEnter user course enrolled ↔ course.organizationId = user.organizationId := by
  unfold MayEnter
  rw [hr]
  constructor
  · rintro ⟨o, huser, hcourse⟩
    rw [huser, hcourse]
  · intro horg
    cases ho : user.organizationId with
    | none =>
      have := falsy_eq_false h hr horg
      rw [ho] at this
      cases this
    | some o => exact ⟨o, rfl, horg.trans ho⟩

theorem roomRule_iff (h : ¬ Astray user course) : RoomRule user course enrolled ↔ MayEnter user course enrolled := by
  cases hr : user.role with
  | student => rw [RoomRule, MayEnter, hr]
  | instructor => rw [RoomRule, MayEnter, hr]
  | orgAdmin => rw [mayEnter_orgAdmin_iff h hr, RoomRule, hr]

theorem editorRule_iff (h : ¬ Astray user course) :
    EditorRule user course enrolled ↔ RoomRule user course enrolled := by
  cases hr : user.role with
  | student => rw [EditorRule, RoomRule, hr]
  | instructor =>
    rw [EditorRule, RoomRule, hr]
    refine or_iff_left_of_imp fun horg => ?_
    by_contra howns
    refine h ⟨horg, ?_⟩
    rw [hr]
    exact howns
  | orgAdmin => rw [EditorRule, RoomRule, hr]

theorem proxyRule_iff (h : ¬ Astray user course) : ProxyRule user course enrolled ↔ RoomRule user course enrolled := by
  cases hr : user.role with
  | student => rw [ProxyRule, RoomRule, hr]
  | instructor => rw [ProxyRule, RoomRule, hr]
  | orgAdmin =>
    rw [ProxyRule, RoomRule, hr]
    exact and_iff_right_of_imp (falsy_eq_false h hr)

/-- The rules are one policy but for the course of the user's own organization that is not theirs. -/
theorem rules_agree_iff :
    (∀ door : Door, door.Rule user course enrolled ↔ MayEnter user course enrolled) ↔ ¬ Astray user course := by
  constructor
  · intro h hastray
    exact not_proxyRule_of_astray hastray ((h .proxy).2 ((h .code).1 (editorRule_of_astray hastray)))
  · intro h door
    have hroom : RoomRule user course enrolled ↔ MayEnter user course enrolled := roomRule_iff h
    cases door with
    | room => exact hroom
    | code => exact (editorRule_iff h).trans hroom
    | terminal => exact (editorRule_iff h).trans hroom
    | tunnel => exact (editorRule_iff h).trans hroom
    | proxy => exact (proxyRule_iff h).trans hroom

end Agree

/-- The five doors let the same users in, those of the policy whose account is permitted, unless the course is of the
user's own organization, or of none like the user, and is not theirs. -/
theorem one_policy_iff (user : JwtPayload) (visit : Visit) (session : LiveSession) (hrecorder : user.recorder = none)
    (hpreview : user.preview = none) (hsession : visit.reads.session = some session) (hopen : session.status ≠ .ended)
    (hcode : Sockets.isEnabledForCourse session.course Sockets.pluginCodeInstruction visit.reads.orgEnabled = true) :
    (∀ door : Door, door.admits user visit = true ↔
      permitted visit.account = true ∧ MayEnter user session.course visit.reads.enrolled) ↔
    (permitted visit.account = true → ¬ Astray user session.course) := by
  simp only [admits_iff hrecorder hpreview hsession hopen hcode]
  constructor
  · intro h hpermitted
    refine (@rules_agree_iff user session.course visit.reads.enrolled).1 fun door => ?_
    have hdoor := h door
    rwa [and_iff_right hpermitted, and_iff_right hpermitted] at hdoor
  · intro h door
    exact and_congr_right fun hpermitted => rules_agree_iff.2 (h hpermitted) door

namespace Example

def webDev (organizationId : Option OrganizationId) : CourseRef :=
  ⟨"web-1", some "zayd", organizationId, some ["code-instruction"]⟩

def monday (organizationId : Option OrganizationId) : LiveSession := ⟨"monday", .live, webDev organizationId⟩

/-- Someone with an account in order asks for a session of Zayd's course. -/
def visit (organizationId : Option OrganizationId) (enrolled : Bool) : Visit :=
  ⟨"monday", 3000, some ⟨.active, true⟩, some (monday organizationId), false, enrolled⟩

def idris : JwtPayload := ⟨"idris", .student, "Idris", some "acme", none, none⟩

def amal : JwtPayload := ⟨"amal", .instructor, "Amal", some "acme", none, none⟩

end Example

open Example in
theorem student_one_policy : permitted (visit (some "acme") true).account = true ∧
    ∀ door : Door, door.admits idris (visit (some "acme") true) = true ↔
      permitted (visit (some "acme") true).account = true ∧ MayEnter idris (webDev (some "acme")) true := by
  refine ⟨by decide, ?_⟩
  exact (one_policy_iff idris (visit (some "acme") true) (monday (some "acme")) rfl rfl rfl (by decide) (by decide)).2
    fun _ h => h.2

open Example in
/-- Another instructor of the organization is turned away from the room and the ports, and reads the code document
and the terminals. -/
theorem colleague_reads : ¬ MayEnter amal (webDev (some "acme")) false ∧
    Door.room.admits amal (visit (some "acme") false) = false ∧
    Door.code.admits amal (visit (some "acme") false) = true ∧
    Door.terminal.admits amal (visit (some "acme") false) = true ∧
    Door.tunnel.admits amal (visit (some "acme") false) = true ∧
    Door.proxy.admits amal (visit (some "acme") false) = false := by
  refine ⟨?_, by decide, by decide, by decide, by decide, by decide⟩
  intro h
  exact absurd (Option.some.inj h) (by decide)

end Livetich.Auth.Policy
