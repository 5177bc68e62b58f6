/-
The doors of `AuthService`: `login`, `sessionFor`, `switchWorkspace` and `joinWorkspace` mint tokens that
may be scoped to an organization. The first two take the organization and the role from the legacy columns
of the user, the others from a membership; other operations write one of these copies or both.
-/
import Livetich.Auth.Invites
import Livetich.Lib.Table

namespace Livetich.Auth

open TransSys Livetich.Lib

/-! ## Rows -/

/-- With the legacy copy of one membership: `role`, `organizationId` and `status`. -/
structure User where
  name : String
  email : String
  passwordHash : String
  role : Role
  organizationId : Option OrganizationId
  status : UserStatus
  emailVerified : Bool
  deriving DecidableEq

/-- The standing of one person in one organization. -/
structure Membership where
  role : Role
  status : UserStatus
  deriving DecidableEq

structure Db where
  users : Table UserId User
  memberships : Table (UserId × OrganizationId) Membership
  invites : Table String Invites.Invite
  enrollments : List (CourseId × UserId)
  now : Nat

/-! ## Doors -/

inductive Door
  | login (email password : String)
  | sessionFor (userId : UserId)
  | switchWorkspace (userId : UserId) (organizationId : OrganizationId)
  | joinWorkspace (userId : UserId) (inviteToken : String)
  deriving DecidableEq

/-- `toAuthResult`: the claims of the token. -/
def toAuthResult (id : UserId) (user : User) (role : Role) (organizationId : Option OrganizationId) : JwtPayload where
  sub := id
  role := role
  name := user.name
  organizationId := organizationId
  recorder := none
  preview := none

def Db.findByEmail (db : Db) (email : String) : Option (UserId × User) :=
  db.users.entries.find? fun e => e.2.email = email

/-- A token scoped by the legacy columns, for an account that is not disabled. -/
def legacySession (id : UserId) (user : User) : Result JwtPayload := do
  ensure (user.status ≠ .disabled) (.forbidden "This account has been disabled")
  return toAuthResult id user user.role user.organizationId

def Db.login (verify : String → String → Bool) (db : Db) (email password : String) : Result JwtPayload := do
  let found ← orThrow ((db.findByEmail email).filter fun e => verify password e.2.passwordHash)
    (.unauthorized "Invalid credentials")
  legacySession found.1 found.2

def Db.sessionFor (db : Db) (userId : UserId) : Result JwtPayload := do
  let user ← orThrow (db.users.get userId) (.unauthorized "Invalid credentials")
  legacySession userId user

def Db.switchWorkspace (db : Db) (userId : UserId) (organizationId : OrganizationId) : Result JwtPayload := do
  let membership ← orThrow ((db.memberships.get (userId, organizationId)).filter fun m => m.status = .active)
    (.forbidden "You are not a member of that workspace")
  let user ← orThrow (db.users.get userId) (.unauthorized "Account not found")
  return toAuthResult userId user membership.role (some organizationId)

/-- What a join writes: a membership if there is none, an enrolment if the link is for one, and the use
of the link when it has given something. -/
def Db.join (db : Db) (userId : UserId) (inviteToken : String) (invite : Invites.Invite)
    (existing : Option Membership) : Db :=
  let role := (existing.map (·.role)).getD invite.role
  let enrols := (invite.courseId.filter fun courseId =>
    role = .student ∧ (courseId, userId) ∉ db.enrollments).toList
  { db with
    memberships := match existing with
      | some _ => db.memberships
      | none => db.memberships.insert (userId, invite.organizationId) ⟨invite.role, .active⟩
    enrollments := enrols.map (·, userId) ++ db.enrollments
    invites :=
      if existing.isNone || !enrols.isEmpty then
        db.invites.modify inviteToken fun i => { i with uses := i.uses + 1 }
      else db.invites }

def Db.joinWorkspace (db : Db) (userId : UserId) (inviteToken : String) : Result (Db × JwtPayload) := do
  let invite ← Invites.assertInviteUsable (db.invites.get inviteToken) db.now
  -- A membership is of an account that is there: without it the join is rolled back.
  let user ← orThrow (db.users.get userId) (.unauthorized "Account not found")
  let existing := db.memberships.get (userId, invite.organizationId)
  return (db.join userId inviteToken invite existing,
    toAuthResult userId user ((existing.map (·.role)).getD invite.role) (some invite.organizationId))

/-- A call of one of the doors: the rows after it, and the token. -/
def Db.enter (verify : String → String → Bool) (db : Db) : Door → Result (Db × JwtPayload)
  | .login email password => (db.login verify email password).map fun token => (db, token)
  | .sessionFor userId => (db.sessionFor userId).map fun token => (db, token)
  | .switchWorkspace userId organizationId =>
    (db.switchWorkspace userId organizationId).map fun token => (db, token)
  | .joinWorkspace userId inviteToken => db.joinWorkspace userId inviteToken

/-! ## Other operations -/

/-- What an account is made of: its id, its name, its address and the hash of its password. -/
structure Account where
  id : UserId
  name : String
  email : String
  passwordHash : String
  deriving DecidableEq

def Account.user (account : Account) (role : Role) (organizationId : OrganizationId) : User where
  name := account.name
  email := account.email
  passwordHash := account.passwordHash
  role := role
  organizationId := some organizationId
  status := .active
  emailVerified := false

/-- A new account with its first membership. -/
def Db.create (db : Db) (account : Account) (role : Role) (organizationId : OrganizationId) : Db :=
  { db with
    users := db.users.insert account.id (account.user role organizationId)
    memberships := db.memberships.insert (account.id, organizationId) ⟨role, .active⟩ }

/-- `assertEmailFree`, and an id that is in no use yet. -/
def Db.assertFree (db : Db) (account : Account) : Result Unit := do
  ensure (db.findByEmail account.email = none) (.conflict "Email already registered")
  ensure (db.users.get account.id = none) (.conflict "Unique constraint failed on the constraint: PRIMARY")

def Db.register (db : Db) (account : Account) (inviteToken : String) : Result Db := do
  db.assertFree account
  let invite ← Invites.assertInviteUsable (db.invites.get inviteToken) db.now
  let enrols := (invite.courseId.filter fun _ => invite.role = .student).toList
  return { db.create account invite.role invite.organizationId with
    invites := db.invites.modify inviteToken fun i => { i with uses := i.uses + 1 }
    enrollments := enrols.map (·, account.id) ++ db.enrollments }

def Db.registerOrganization (db : Db) (account : Account) (organizationId : OrganizationId) : Result Db := do
  db.assertFree account
  return db.create account .orgAdmin organizationId

def Db.createWorkspace (db : Db) (userId : UserId) (organizationId : OrganizationId) : Result Db := do
  let _ ← orThrow (db.users.get userId) (.unauthorized "Account not found")
  return { db with memberships := db.memberships.insert (userId, organizationId) ⟨.orgAdmin, .active⟩ }

def Db.setMemberStatus (db : Db) (orgId : OrganizationId) (memberId : UserId) (status : UserStatus) : Result Db := do
  let member ← orThrow (db.memberships.get (memberId, orgId)) (.notFound "Member not found in your organization")
  ensure (member.role ≠ .orgAdmin) (.badRequest "Admin accounts cannot be disabled here")
  return { db with users := db.users.modify memberId fun u => { u with status := status } }

def Db.setUserStatus (db : Db) (actor userId : UserId) (status : UserStatus) : Result Db := do
  let _ ← orThrow (db.users.get userId) (.notFound "User not found")
  ensure (userId ≠ actor) (.badRequest "You cannot change your own account status")
  return { db with users := db.users.modify userId fun u => { u with status := status } }

def Db.setUserRole (db : Db) (userId : UserId) (role : Role) : Result Db := do
  let _ ← orThrow (db.users.get userId) (.notFound "User not found")
  return { db with users := db.users.modify userId fun u => { u with role := role } }

inductive Event
  | enter (door : Door)
  | register (account : Account) (inviteToken : String)
  | registerOrganization (account : Account) (organizationId : OrganizationId)
  | createWorkspace (userId : UserId) (organizationId : OrganizationId)
  | setMemberStatus (orgId : OrganizationId) (memberId : UserId) (status : UserStatus)
  | setUserStatus (actor userId : UserId) (status : UserStatus)
  | setUserRole (userId : UserId) (role : Role)
  | createInvite (token : String) (invite : Invites.Invite)
  | revokeInvite (token : String)
  | tick (ms : Nat)
  deriving DecidableEq

/-- The rows after a call; a call that throws changes nothing. -/
def Db.call (verify : String → String → Bool) (db : Db) : Event → Result Db
  | .enter door => (db.enter verify door).map (·.1)
  | .register account inviteToken => db.register account inviteToken
  | .registerOrganization account organizationId => db.registerOrganization account organizationId
  | .createWorkspace userId organizationId => db.createWorkspace userId organizationId
  | .setMemberStatus orgId memberId status => db.setMemberStatus orgId memberId status
  | .setUserStatus actor userId status => db.setUserStatus actor userId status
  | .setUserRole userId role => db.setUserRole userId role
  | .createInvite token invite => .ok { db with invites := db.invites.insert token invite }
  | .revokeInvite token =>
    .ok { db with invites := db.invites.modify token fun i => { i with revokedAt := some db.now } }
  | .tick ms => .ok { db with now := db.now + ms }

namespace Doors

def step (verify : String → String → Bool) (db : Db) (ev : Event) : Option Db :=
  some ((db.call verify ev).toOption.getD db)

/-- The organization of a token is one of an ACTIVE membership, with the role of that membership. -/
def Scoped (db : Db) (token : JwtPayload) : Prop :=
  ∀ organizationId, token.organizationId = some organizationId →
    ∃ m, db.memberships.get (token.sub, organizationId) = some m ∧ m.status = .active ∧ m.role = token.role

/-! ## The condition -/

/-- What the legacy columns say of an organization, an ACTIVE membership says too. -/
def legacyAgrees (db : Db) (id : UserId) (user : User) : Bool :=
  user.organizationId.all fun organizationId =>
    (db.memberships.get (id, organizationId)).any fun m => m.status = .active ∧ m.role = user.role

/-- A person let in by the legacy columns has a membership that agrees with them, and a person let in by a
link has no DISABLED membership there. -/
def copiesAgree (verify : String → String → Bool) (db : Db) : Event → Bool
  | .enter (.login email password) =>
    (db.findByEmail email).all fun e =>
      !verify password e.2.passwordHash || e.2.status == .disabled || legacyAgrees db e.1 e.2
  | .enter (.sessionFor userId) =>
    (db.users.get userId).all fun user => user.status == .disabled || legacyAgrees db userId user
  | .enter (.joinWorkspace userId inviteToken) =>
    (Invites.assertInviteUsable (db.invites.get inviteToken) db.now).toOption.all fun invite =>
      (db.users.get userId).isNone ||
        (db.memberships.get (userId, invite.organizationId)).all fun m => m.status = .active
  | _ => true

/-! ## What a door gives -/

variable {verify : String → String → Bool}

theorem legacyAgrees_iff {db : Db} {id : UserId} {user : User} :
    legacyAgrees db id user = true ↔ Scoped db (toAuthResult id user user.role user.organizationId) := by
  unfold legacyAgrees Scoped toAuthResult
  cases user.organizationId with
  | none => simp
  | some organizationId =>
    simp only [Option.all_some, Option.any_eq_true_iff_get, Option.some.injEq, forall_eq']
    constructor
    · rintro ⟨hsome, h⟩
      refine ⟨_, (Option.some_get hsome).symm, ?_⟩
      simpa using h
    · rintro ⟨m, hm, hstatus, hrole⟩
      refine ⟨by rw [hm]; rfl, ?_⟩
      simp [hm, hstatus, hrole]

/-- Someone who is let in by the legacy columns. -/
theorem legacySession_iff {db : Db} {id : UserId} {user : User} :
    (user.status == .disabled || legacyAgrees db id user) = true ↔
      ∀ token, legacySession id user = .ok token → Scoped db token := by
  unfold legacySession
  rw [Bool.or_eq_true, beq_iff_eq, legacyAgrees_iff]
  constructor
  · intro h token htoken
    obtain ⟨u, hstatus, hok⟩ := bind_ok_iff.1 htoken
    cases hok
    exact h.resolve_left (ensure_ok_iff.1 hstatus)
  · intro h
    by_cases hstatus : user.status = .disabled
    · exact .inl hstatus
    · exact .inr (h _ (bind_ok_iff.2 ⟨(), ensure_ok_iff.2 hstatus, rfl⟩))

theorem switchWorkspace_scoped {db : Db} {userId : UserId} {organizationId : OrganizationId} {token : JwtPayload}
    (h : db.switchWorkspace userId organizationId = .ok token) : Scoped db token := by
  obtain ⟨m, hm, h⟩ := bind_ok_iff.1 h
  obtain ⟨user, -, hok⟩ := bind_ok_iff.1 h
  cases hok
  obtain ⟨hget, hstatus⟩ := Option.filter_eq_some_iff.1 (orThrow_ok_iff.1 hm)
  rintro _ ⟨⟩
  exact ⟨m, hget, of_decide_eq_true hstatus, rfl⟩

/-- What a join leaves is a membership with the role of the token, which is ACTIVE unless it was there and is
not. -/
theorem join_scoped {db : Db} {userId : UserId} {inviteToken : String} {invite : Invites.Invite} {user : User}
    {existing : Option Membership} (h : db.memberships.get (userId, invite.organizationId) = existing) :
    Scoped (db.join userId inviteToken invite existing)
      (toAuthResult userId user ((existing.map (·.role)).getD invite.role) (some invite.organizationId)) ↔
        (existing.all fun m => m.status = .active) = true := by
  cases existing with
  | none =>
    refine ⟨fun _ => rfl, fun _ => ?_⟩
    rintro _ ⟨⟩
    refine ⟨⟨invite.role, .active⟩, ?_, rfl, rfl⟩
    show (db.memberships.insert (userId, invite.organizationId) ⟨invite.role, .active⟩).get _ = _
    rw [Table.get_insert h]
    exact if_pos rfl
  | some m =>
    constructor
    · intro hscoped
      obtain ⟨m', hm', hstatus, -⟩ := hscoped _ rfl
      have heq : m = m' := Option.some.inj (h.symm.trans hm')
      simpa [heq] using hstatus
    · intro hactive
      rintro _ ⟨⟩
      exact ⟨m, h, by simpa using hactive, rfl⟩

theorem joinWorkspace_iff {db : Db} {userId : UserId} {inviteToken : String} :
    ((Invites.assertInviteUsable (db.invites.get inviteToken) db.now).toOption.all fun invite =>
      (db.users.get userId).isNone ||
        (db.memberships.get (userId, invite.organizationId)).all fun m => m.status = .active) = true ↔
      ∀ db' token, db.joinWorkspace userId inviteToken = .ok (db', token) → Scoped db' token := by
  constructor
  · intro h db' token hok
    obtain ⟨invite, hinvite, hok⟩ := bind_ok_iff.1 hok
    obtain ⟨user, huser, hok⟩ := bind_ok_iff.1 hok
    cases hok
    rw [hinvite, orThrow_ok_iff.1 huser] at h
    exact (join_scoped rfl).2 h
  · intro h
    cases hinvite : Invites.assertInviteUsable (db.invites.get inviteToken) db.now with
    | error e => rfl
    | ok invite =>
      cases huser : db.users.get userId with
      | none => rfl
      | some user =>
        have hjoin := @join_scoped db userId inviteToken invite user _ rfl
        refine hjoin.1 (h _ _ ?_)
        unfold Db.joinWorkspace
        rw [hinvite, huser]
        rfl

/-- A door that writes nothing. -/
theorem map_scoped {db : Db} {x : Result JwtPayload} :
    (∀ db' token, x.map (fun token => (db, token)) = .ok (db', token) → Scoped db' token) ↔
      ∀ token, x = .ok token → Scoped db token := by
  constructor
  · rintro h token rfl
    exact h db token rfl
  · intro h db' token hok
    cases x with
    | error e => cases hok
    | ok t => cases hok; exact h token rfl

theorem login_iff {db : Db} {email password : String} :
    ((db.findByEmail email).all fun e =>
      !verify password e.2.passwordHash || e.2.status == .disabled || legacyAgrees db e.1 e.2) = true ↔
        ∀ token, db.login verify email password = .ok token → Scoped db token := by
  constructor
  · intro h token hok
    obtain ⟨e, he, hok⟩ := bind_ok_iff.1 hok
    obtain ⟨hfound, hverify⟩ := Option.filter_eq_some_iff.1 (orThrow_ok_iff.1 he)
    rw [hfound, Option.all_some, hverify] at h
    exact legacySession_iff.1 h token hok
  · intro h
    cases hfound : db.findByEmail email with
    | none => rfl
    | some e =>
      rw [Option.all_some]
      by_cases hverify : verify password e.2.passwordHash = true
      · rw [hverify]
        refine legacySession_iff.2 fun token htoken => h token ?_
        unfold Db.login
        rw [hfound, Option.filter_some, if_pos hverify]
        exact htoken
      · rw [Bool.eq_false_iff.2 hverify]
        rfl

theorem sessionFor_iff {db : Db} {userId : UserId} :
    ((db.users.get userId).all fun user => user.status == .disabled || legacyAgrees db userId user) = true ↔
      ∀ token, db.sessionFor userId = .ok token → Scoped db token := by
  unfold Db.sessionFor
  cases db.users.get userId with
  | none => exact ⟨fun _ token h => (by cases h), fun _ => rfl⟩
  | some user => exact legacySession_iff

/-- A door gives tokens of ACTIVE memberships only, exactly when the condition holds. -/
theorem copiesAgree_iff {db : Db} {door : Door} :
    copiesAgree verify db (.enter door) = true ↔
      ∀ db' token, db.enter verify door = .ok (db', token) → Scoped db' token := by
  cases door with
  | login email password => exact login_iff.trans map_scoped.symm
  | sessionFor userId => exact sessionFor_iff.trans map_scoped.symm
  | switchWorkspace userId organizationId =>
    exact ⟨fun _ => map_scoped.2 fun token => switchWorkspace_scoped, fun _ => rfl⟩
  | joinWorkspace userId inviteToken => exact joinWorkspace_iff

/-- Every token that the doors mint in a run is of an ACTIVE membership of the person it is for, with the role
of this membership, exactly when the legacy columns agree with a membership whenever they let someone in and
no link is used by someone whose membership is DISABLED. -/
theorem tokens_scoped {db₀ db : Db} {es : List Event} (hrun : run (step verify) db₀ es = some db) :
    (∀ es₁ door es₂ db₁ db₂ token, es = es₁ ++ .enter door :: es₂ →
      run (step verify) db₀ es₁ = some db₁ → db₁.enter verify door = .ok (db₂, token) → Scoped db₂ token) ↔
        Meets (step verify) (fun db ev => copiesAgree verify db ev = true) db₀ es := by
  constructor
  · intro h
    refine Meets.of_steps hrun fun es₁ ev es₂ db₁ db₂ hes h₁ h₂ => ?_
    cases ev with
    | enter door => exact copiesAgree_iff.2 fun db' token => h es₁ door es₂ db₁ db' token hes h₁
    | _ => rfl
  · intro hok es₁ door es₂ db₁ db₂ token hes h₁
    rw [hes] at hok
    exact copiesAgree_iff.1 (meets_append hok h₁).2.1 db₂ token

namespace Example

/-- A disabled student, as memberships were filled in from the legacy columns; two organizations have a link for
students. -/
def filledIn : Db where
  users := Table.empty.insert "aisha" ⟨"Aisha", "aisha@example.org", "hash", .student, some "acme", .disabled, true⟩
  memberships := Table.empty.insert ("aisha", "acme") ⟨.student, .disabled⟩
  invites := (Table.empty.insert "noor-link" ⟨"noor", .student, none, none, 0, none, none⟩).insert "acme-link"
    ⟨"acme", .student, none, none, 0, none, none⟩
  enrollments := []
  now := 0

/-- `root` enables her account; her membership stays DISABLED. -/
def enabled : Db :=
  { filledIn with users := filledIn.users.modify "aisha" fun u => { u with status := .active } }

def anyPassword : String → String → Bool := fun _ _ => true

def enable : Event := .setUserStatus "root" "aisha" .active

def joinNoor : Door := .joinWorkspace "aisha" "noor-link"

theorem enable_run : run (step anyPassword) filledIn [enable] = some enabled := rfl

end Example

open Example in
theorem other_school_joined : ∃ db token, enabled.enter anyPassword joinNoor = .ok (db, token) ∧
    token.organizationId = some "noor" ∧ Scoped db token := by
  obtain ⟨db, hrun⟩ : ∃ db, run (step anyPassword) filledIn [enable, .enter joinNoor] = some db := ⟨_, rfl⟩
  have hscoped := (tokens_scoped hrun).2 (by decide)
  exact ⟨_, _, rfl, rfl, hscoped [enable] joinNoor [] enabled _ _ rfl enable_run rfl⟩

open Example in
/-- A log-in and the old link let her into the organization where she is disabled; switching there is refused. -/
theorem disabled_member_let_in : ∃ token db,
    enabled.memberships.get ("aisha", "acme") = some ⟨.student, .disabled⟩ ∧
    enabled.login anyPassword "aisha@example.org" "secret" = .ok token ∧
    enabled.joinWorkspace "aisha" "acme-link" = .ok (db, token) ∧ token.organizationId = some "acme" ∧
    ¬Scoped enabled token ∧ ¬Scoped db token ∧
    enabled.switchWorkspace "aisha" "acme" = .error (.forbidden "You are not a member of that workspace") := by
  have hacme : enabled.memberships.get ("aisha", "acme") = some ⟨.student, .disabled⟩ := by decide
  have hunscoped : ∀ (d : Db) (token : JwtPayload), d.memberships = enabled.memberships → token.sub = "aisha" →
      token.organizationId = some "acme" → ¬Scoped d token := fun d token hd hsub horg h => by
    obtain ⟨m, hm, hstatus, -⟩ := h "acme" horg
    rw [hd, hsub, hacme] at hm
    cases hm
    cases hstatus
  exact ⟨_, _, hacme, rfl, rfl, rfl, hunscoped _ _ rfl rfl rfl, hunscoped _ _ rfl rfl rfl, rfl⟩

end Doors

end Livetich.Auth
