/-
Disabling an account: an organization's `setMemberStatus` and the platform's `setUserStatus` write the one
status of the account, which the guard reads through its cache and the doors read from the row.
-/
import Livetich.Auth.Doors

namespace Livetich.Auth.Disabling

open TransSys Livetich.Lib

structure State where
  db : Db
  /-- The account states in Redis. -/
  cached : Table UserId AccountState
  /-- Whom the platform has disabled and not enabled since. -/
  banned : List UserId

inductive Event
  | call (ev : Auth.Event)
  /-- A request that the guard sees. -/
  | request (userId : UserId)
  /-- The key's time to live is over. -/
  | expire (userId : UserId)
  deriving DecidableEq

/-! ## The guard -/

def accountState (user : User) : AccountState := ⟨user.status, user.emailVerified⟩

/-- `AuthCacheService.getState`. -/
def State.account (s : State) (userId : UserId) : Option AccountState :=
  (s.cached.get userId).or ((s.db.users.get userId).map accountState)

/-- What `getState` leaves in the cache. -/
def State.fill (s : State) (userId : UserId) : Table UserId AccountState :=
  match s.account userId with
  | some account => s.cached.insert userId account
  | none => s.cached

/-- `JwtAuthGuard.canActivate`, for a token of this account. -/
def guard (account : Option AccountState) (allowUnverified : Bool) : Result Unit := do
  let account ← orThrow (account.filter fun a => a.status ≠ .disabled)
    (.unauthorized "This account has been disabled")
  ensure (account.emailVerified = true ∨ allowUnverified = true) (.forbidden "Email not verified")

/-! ## Steps -/

/-- Whose status a call sets, and to what. -/
def statusSet : Auth.Event → Option (UserId × UserStatus)
  | .setMemberStatus _ userId status | .setUserStatus _ userId status => some (userId, status)
  | _ => none

def banned (banned : List UserId) : Auth.Event → List UserId
  | .setUserStatus _ userId .disabled => userId :: banned
  | .setUserStatus _ userId .active => banned.filter (· ≠ userId)
  | _ => banned

def step (verify : String → String → Bool) (s : State) : Event → Option State
  | .call ev =>
    match s.db.call verify ev with
    | .error _ => some s
    | .ok db =>
      some { db := db
             cached := match statusSet ev with
               | some (userId, _) => s.cached.filter fun id _ => id != userId
               | none => s.cached
             banned := banned s.banned ev }
  | .request userId => some { s with cached := s.fill userId }
  | .expire userId => some { s with cached := s.cached.filter fun id _ => id != userId }

/-! ## Access -/

/-- Requests of this account reach the handlers, at least those open to unverified accounts. -/
def State.passes (s : State) (userId : UserId) : Bool := (guard (s.account userId) true).toOption.isSome

/-- A person who passes the guard with a token for the organization: of a log-in, or of a switch. -/
def State.canEnter (s : State) (userId : UserId) (organizationId : OrganizationId) : Bool :=
  s.passes userId &&
    ((s.db.sessionFor userId).toOption.any (fun token => token.organizationId = some organizationId) ||
      (s.db.switchWorkspace userId organizationId).toOption.isSome)

/-- Neither the guard nor a log-in lets an account through. -/
structure Out (verify : String → String → Bool) (s : State) (userId : UserId) : Prop where
  guard : ∀ allowUnverified, guard (s.account userId) allowUnverified ≠ .ok ()
  login : ∀ email password token, s.db.login verify email password = .ok token → token.sub ≠ userId
  session : ∀ token, s.db.sessionFor userId ≠ .ok token

/-- What an organization takes away by disabling a member: the access to itself, and nothing else. -/
structure Local (s s' : State) (organizationId : OrganizationId) (memberId : UserId) : Prop where
  own : s'.canEnter memberId organizationId = false
  others : ∀ userId organizationId', (userId, organizationId') ≠ (memberId, organizationId) →
    s'.canEnter userId organizationId' = s.canEnter userId organizationId'

/-! ## The condition -/

/-- The organizations a person may have a token for. -/
def State.workspaces (s : State) (userId : UserId) : List OrganizationId :=
  ((s.db.users.get userId).bind (·.organizationId)).toList ++
    (s.db.memberships.keys.filter fun k => k.1 = userId).map (·.2)

/-- An organization disables no one who can enter another one, and enables no one whom the platform has
disabled. -/
def staysLocal (s : State) : Event → Bool
  | .call (.setMemberStatus organizationId memberId status) =>
    !(s.db.setMemberStatus organizationId memberId status).toOption.isSome ||
      match status with
      | .disabled => (s.workspaces memberId).all fun other => other = organizationId || !s.canEnter memberId other
      | .active => !s.banned.contains memberId
  | _ => true

/-! ## What a call does to accounts -/

variable {verify : String → String → Bool}

/-- A call that sets a status does nothing else. -/
theorem call_sets {db db' : Db} {ev : Auth.Event} {userId : UserId} {status : UserStatus}
    (h : db.call verify ev = .ok db') (hset : statusSet ev = some (userId, status)) :
    db' = { db with users := db.users.modify userId fun u => { u with status := status } } := by
  cases ev with
  | setMemberStatus orgId memberId status' =>
    cases hset
    obtain ⟨member, -, h⟩ := bind_ok_iff.1 h
    obtain ⟨u, -, h⟩ := bind_ok_iff.1 h
    cases h
    rfl
  | setUserStatus actor userId' status' =>
    cases hset
    obtain ⟨user, -, h⟩ := bind_ok_iff.1 h
    obtain ⟨u, -, h⟩ := bind_ok_iff.1 h
    cases h
    rfl
  | _ => cases hset

/-- The doors write no account. -/
theorem enter_users {db db' : Db} {door : Door} {token : JwtPayload} (h : db.enter verify door = .ok (db', token)) :
    db'.users = db.users := by
  have hsame : ∀ x : Result JwtPayload, x.map (fun token => (db, token)) = .ok (db', token) →
      db'.users = db.users := fun x hx => by
    cases x with
    | error e => cases hx
    | ok t => cases hx; rfl
  cases door with
  | login email password => exact hsame _ h
  | sessionFor userId => exact hsame _ h
  | switchWorkspace userId organizationId => exact hsame _ h
  | joinWorkspace userId inviteToken =>
    obtain ⟨invite, -, h⟩ := bind_ok_iff.1 h
    obtain ⟨user, huser, h⟩ := bind_ok_iff.1 h
    cases h
    rfl

/-- The others leave the state of every account as it is. -/
theorem call_keeps {db db' : Db} {ev : Auth.Event} (h : db.call verify ev = .ok db') (hset : statusSet ev = none)
    {userId : UserId} {user : User} (huser : db.users.get userId = some user) :
    ∃ user', db'.users.get userId = some user' ∧ accountState user' = accountState user := by
  cases ev with
  | enter door =>
    cases hdoor : db.enter verify door with
    | error e =>
      rw [Db.call, hdoor] at h
      cases h
    | ok r =>
      rw [Db.call, hdoor] at h
      cases h
      exact ⟨user, by rw [show r.1.users = db.users from enter_users hdoor]; exact huser, rfl⟩
  | register account inviteToken =>
    obtain ⟨u, hfree, h⟩ := bind_ok_iff.1 h
    obtain ⟨invite, -, h⟩ := bind_ok_iff.1 h
    cases h
    exact ⟨user, Table.get_insert_of_some huser _ _, rfl⟩
  | registerOrganization account organizationId =>
    obtain ⟨u, hfree, h⟩ := bind_ok_iff.1 h
    cases h
    exact ⟨user, Table.get_insert_of_some huser _ _, rfl⟩
  | createWorkspace id organizationId =>
    obtain ⟨u, -, h⟩ := bind_ok_iff.1 h
    cases h
    exact ⟨user, huser, rfl⟩
  | setUserRole id role =>
    obtain ⟨u, -, h⟩ := bind_ok_iff.1 h
    cases h
    show ∃ user', (db.users.modify id fun u => { u with role := role }).get userId = some user' ∧ _
    rw [Table.get_modify, huser]
    split
    · exact ⟨_, rfl, rfl⟩
    · exact ⟨user, rfl, rfl⟩
  | createInvite token invite =>
    cases h
    exact ⟨user, huser, rfl⟩
  | revokeInvite token =>
    cases h
    exact ⟨user, huser, rfl⟩
  | tick ms =>
    cases h
    exact ⟨user, huser, rfl⟩
  | setMemberStatus orgId memberId status => cases hset
  | setUserStatus actor id status => cases hset

/-- Someone is banned by a call of the platform, or was banned and is not enabled by one. -/
theorem banned_cases {bans : List UserId} {ev : Auth.Event} {userId : UserId} (h : userId ∈ banned bans ev) :
    (∃ actor, ev = .setUserStatus actor userId .disabled) ∨
      (userId ∈ bans ∧ ∀ actor, ev ≠ .setUserStatus actor userId .active) := by
  cases ev with
  | setUserStatus actor id status =>
    cases status with
    | active =>
      obtain ⟨hmem, hne⟩ := List.mem_filter.1 h
      refine .inr ⟨hmem, ?_⟩
      rintro actor' ⟨⟩
      exact of_decide_eq_true hne rfl
    | disabled =>
      rcases List.mem_cons.1 h with rfl | hmem
      · exact .inl ⟨actor, rfl⟩
      · exact .inr ⟨hmem, fun _ => by rintro ⟨⟩⟩
  | _ => exact .inr ⟨h, fun _ => by rintro ⟨⟩⟩

/-! ## The cache -/

structure Inv (s : State) : Prop where
  coherent : ∀ userId a, s.cached.get userId = some a → (s.db.users.get userId).map accountState = some a
  known : ∀ userId ∈ s.banned, ∃ user, s.db.users.get userId = some user

/-- The guard sees the row. -/
theorem Inv.account {s : State} (hs : Inv s) (userId : UserId) :
    s.account userId = (s.db.users.get userId).map accountState := by
  unfold State.account
  cases hcached : s.cached.get userId with
  | none => rfl
  | some a => exact (hs.coherent userId a hcached).symm

/-- A step goes through a call or changes only what is cached, and the cache goes on being right. -/
theorem step_inv {s s' : State} {ev : Event} (hs : Inv s) (h : step verify s ev = some s') : Inv s' := by
  cases ev with
  | call ev =>
    unfold step at h
    dsimp only at h
    split at h
    · cases h
      exact hs
    · rename_i db hcall
      cases h
      cases hset : statusSet ev with
      | none =>
        refine ⟨fun userId a ha => ?_, fun userId hmem => ?_⟩
        · have ha' : s.cached.get userId = some a := by simpa [hset] using ha
          obtain ⟨user, huser, rfl⟩ := Option.map_eq_some_iff.1 (hs.coherent userId a ha')
          obtain ⟨user', huser', hstate⟩ := call_keeps hcall hset huser
          show (db.users.get userId).map accountState = _
          rw [huser', Option.map_some, hstate]
        · rcases banned_cases hmem with ⟨actor, rfl⟩ | ⟨hmem, -⟩
          · cases hset
          · obtain ⟨user, huser⟩ := hs.known userId hmem
            obtain ⟨user', huser', -⟩ := call_keeps hcall hset huser
            exact ⟨user', huser'⟩
      | some e =>
        obtain ⟨id, status⟩ := e
        have hdb := call_sets hcall hset
        subst hdb
        refine ⟨fun userId a ha => ?_, fun userId hmem => ?_⟩
        · have ha' : (s.cached.filter fun j _ => j != id).get userId = some a := by simpa [hset] using ha
          obtain ⟨hcached, hne⟩ := Table.get_filter.1 ha'
          show ((s.db.users.modify id _).get userId).map accountState = _
          rw [Table.get_modify_of_ne _ _ (bne_iff_ne.1 hne)]
          exact hs.coherent userId a hcached
        · have hold : ∃ user, s.db.users.get userId = some user := by
            rcases banned_cases hmem with ⟨actor, rfl⟩ | ⟨hmem, -⟩
            · obtain ⟨user, huser, -⟩ := bind_ok_iff.1 hcall
              exact ⟨user, orThrow_ok_iff.1 huser⟩
            · exact hs.known userId hmem
          obtain ⟨user, huser⟩ := hold
          show ∃ user, (s.db.users.modify id _).get userId = some user
          rw [Table.get_modify, huser]
          split
          · exact ⟨_, rfl⟩
          · exact ⟨user, rfl⟩
  | request userId =>
    cases h
    refine ⟨fun id a ha => ?_, hs.known⟩
    have ha' : (s.fill userId).get id = some a := ha
    unfold State.fill at ha'
    cases haccount : s.account userId with
    | none =>
      rw [haccount] at ha'
      exact hs.coherent id a ha'
    | some account =>
      rw [haccount] at ha'
      simp only at ha'
      cases hcached : s.cached.get userId with
      | some old =>
        have hmem : userId ∈ s.cached.entries.map (·.1) := Table.mem_keys.2 ⟨old, hcached⟩
        have hsame : s.cached.insert userId account = s.cached := dif_pos hmem
        rw [hsame] at ha'
        exact hs.coherent id a ha'
      | none =>
        rw [Table.get_insert hcached] at ha'
        split at ha'
        · rename_i hid
          cases ha'
          rw [hid]
          exact (hs.account userId).symm.trans haccount
        · exact hs.coherent id a ha'
  | expire userId =>
    cases h
    exact ⟨fun id a ha => hs.coherent id a (Table.get_filter.1 ha).1, hs.known⟩

/-! ## Who stays out -/

theorem guard_ok_iff {account : Option AccountState} {allowUnverified : Bool} :
    guard account allowUnverified = .ok () ↔
      ∃ a, account = some a ∧ a.status ≠ .disabled ∧ (a.emailVerified = true ∨ allowUnverified = true) := by
  unfold guard
  rw [bind_ok_iff]
  constructor
  · rintro ⟨a, ha, hverified⟩
    obtain ⟨haccount, hstatus⟩ := Option.filter_eq_some_iff.1 (orThrow_ok_iff.1 ha)
    exact ⟨a, haccount, of_decide_eq_true hstatus, ensure_ok_iff.1 hverified⟩
  · rintro ⟨a, haccount, hstatus, hverified⟩
    refine ⟨a, orThrow_ok_iff.2 (Option.filter_eq_some_iff.2 ⟨haccount, decide_eq_true hstatus⟩), ?_⟩
    exact ensure_ok_iff.2 hverified

theorem passes_iff {s : State} {userId : UserId} :
    s.passes userId = true ↔ ∃ a, s.account userId = some a ∧ a.status ≠ .disabled := by
  unfold State.passes
  rw [Option.isSome_iff_exists]
  constructor
  · rintro ⟨u, hu⟩
    obtain ⟨a, ha, hstatus, -⟩ := guard_ok_iff.1 (toOption_eq_some.1 hu)
    exact ⟨a, ha, hstatus⟩
  · rintro ⟨a, ha, hstatus⟩
    exact ⟨(), toOption_eq_some.2 (guard_ok_iff.2 ⟨a, ha, hstatus, .inr rfl⟩)⟩

/-- Someone who is let out by the guard and by log-ins does not pass. -/
theorem Out.not_passes {s : State} {userId : UserId} (h : Out verify s userId) : s.passes userId = false := by
  rw [Bool.eq_false_iff]
  intro hpasses
  obtain ⟨a, ha, hstatus⟩ := passes_iff.1 hpasses
  exact h.guard true (guard_ok_iff.2 ⟨a, ha, hstatus, .inr rfl⟩)

theorem legacySession_disabled {id : UserId} {user : User} (h : user.status = .disabled) (token : JwtPayload) :
    legacySession id user ≠ .ok token := by
  intro hok
  obtain ⟨u, hstatus, -⟩ := bind_ok_iff.1 hok
  exact ensure_ok_iff.1 hstatus h

theorem out_of_disabled {s : State} (hs : Inv s) {userId : UserId} {user : User}
    (huser : s.db.users.get userId = some user) (hstatus : user.status = .disabled) : Out verify s userId := by
  refine ⟨fun allowUnverified hok => ?_, fun email password token hok hsub => ?_, fun token hok => ?_⟩
  · obtain ⟨a, ha, hne, -⟩ := guard_ok_iff.1 hok
    rw [hs.account, huser] at ha
    cases ha
    exact hne hstatus
  · obtain ⟨e, he, hok⟩ := bind_ok_iff.1 hok
    obtain ⟨hfound, -⟩ := Option.filter_eq_some_iff.1 (orThrow_ok_iff.1 he)
    have hget : s.db.users.get e.1 = some e.2 := Table.get_of_mem (List.mem_of_find?_eq_some hfound)
    obtain ⟨u, hactive, hok⟩ := bind_ok_iff.1 hok
    cases hok
    have hid : e.1 = userId := hsub
    rw [hid, huser] at hget
    cases hget
    exact ensure_ok_iff.1 hactive hstatus
  · obtain ⟨u, hu, hok⟩ := bind_ok_iff.1 hok
    rw [orThrow_ok_iff.1 hu] at huser
    cases huser
    exact legacySession_disabled hstatus token hok

/-- Whom the platform has disabled is disabled. -/
def Held (s : State) : Prop :=
  ∀ userId ∈ s.banned, ∃ user, s.db.users.get userId = some user ∧ user.status = .disabled

theorem step_held {s s' : State} {ev : Event} (hs : Held s) (hok : staysLocal s ev = true)
    (h : step verify s ev = some s') : Held s' := by
  cases ev with
  | request userId =>
    cases h
    exact hs
  | expire userId =>
    cases h
    exact hs
  | call ev =>
    unfold step at h
    dsimp only at h
    split at h
    · cases h
      exact hs
    · rename_i db hcall
      cases h
      intro userId hmem
      show ∃ user, db.users.get userId = some user ∧ _
      cases hset : statusSet ev with
      | none =>
        rcases banned_cases hmem with ⟨actor, rfl⟩ | ⟨hmem, -⟩
        · cases hset
        · obtain ⟨user, huser, hstatus⟩ := hs userId hmem
          obtain ⟨user', huser', hstate⟩ := call_keeps hcall hset huser
          exact ⟨user', huser', (congrArg AccountState.status hstate).trans hstatus⟩
      | some e =>
        obtain ⟨id, status⟩ := e
        have hdb := call_sets hcall hset
        subst hdb
        show ∃ user, (s.db.users.modify id fun u => { u with status := status }).get userId = some user ∧ _
        have hnew : ∀ user, s.db.users.get id = some user → status = .disabled →
            ∃ user, (s.db.users.modify id fun u => { u with status := status }).get id = some user ∧
              user.status = .disabled := fun user huser hstatus =>
          ⟨{ user with status := status }, by rw [Table.get_modify_self, huser]; rfl, hstatus⟩
        rcases banned_cases hmem with ⟨actor, rfl⟩ | ⟨hmem, hkept⟩
        · cases hset
          obtain ⟨user, huser, -⟩ := bind_ok_iff.1 hcall
          exact hnew user (orThrow_ok_iff.1 huser) rfl
        · obtain ⟨user, huser, hdisabled⟩ := hs userId hmem
          by_cases hid : userId = id
          · subst hid
            refine hnew user huser ?_
            cases status with
            | disabled => rfl
            | active =>
              cases ev with
              | setMemberStatus orgId memberId status' =>
                cases hset
                have hcall' : s.db.setMemberStatus orgId userId .active = .ok _ := hcall
                rw [staysLocal, hcall'] at hok
                have hfree : userId ∉ s.banned := by simpa [Except.toOption] using hok
                exact absurd hmem hfree
              | setUserStatus actor id' status' =>
                cases hset
                exact absurd rfl (hkept actor)
              | _ => cases hset
          · exact ⟨user, by rw [Table.get_modify_of_ne _ _ hid]; exact huser, hdisabled⟩

/-! ## What disabling takes away -/

/-- An organization that a person can enter is one they have a token for. -/
theorem canEnter_mem {s : State} {userId : UserId} {organizationId : OrganizationId}
    (h : s.canEnter userId organizationId = true) : organizationId ∈ s.workspaces userId := by
  unfold State.canEnter at h
  rw [Bool.and_eq_true, Bool.or_eq_true] at h
  unfold State.workspaces
  rcases h.2 with hsession | hswitch
  · refine List.mem_append_left _ ?_
    cases htoken : (s.db.sessionFor userId).toOption with
    | none =>
      rw [htoken] at hsession
      cases hsession
    | some token =>
      obtain ⟨user, huser, hok⟩ := bind_ok_iff.1 (toOption_eq_some.1 htoken)
      obtain ⟨u, -, hok⟩ := bind_ok_iff.1 hok
      cases hok
      rw [htoken, Option.any_some, decide_eq_true_eq] at hsession
      have horg : user.organizationId = some organizationId := hsession
      rw [orThrow_ok_iff.1 huser, Option.bind_some, horg]
      exact List.mem_singleton_self organizationId
  · refine List.mem_append_right _ ?_
    obtain ⟨token, htoken⟩ := Option.isSome_iff_exists.1 hswitch
    obtain ⟨m, hm, -⟩ := bind_ok_iff.1 (toOption_eq_some.1 htoken)
    obtain ⟨hget, -⟩ := Option.filter_eq_some_iff.1 (orThrow_ok_iff.1 hm)
    refine List.mem_map.2 ⟨(userId, organizationId), List.mem_filter.2 ⟨?_, by simp⟩, rfl⟩
    exact Table.mem_keys.2 ⟨m, hget⟩

theorem canEnter_of_not_passes {s : State} {userId : UserId} (h : s.passes userId = false)
    (organizationId : OrganizationId) : s.canEnter userId organizationId = false := by
  unfold State.canEnter
  rw [h, Bool.false_and]

/-- The state after a status has been written by an organization. -/
def State.written (s : State) (memberId : UserId) (status : UserStatus) : State where
  db := { s.db with users := s.db.users.modify memberId fun u => { u with status := status } }
  cached := s.cached.filter fun id _ => id != memberId
  banned := s.banned

theorem step_setMemberStatus {s : State} {organizationId : OrganizationId} {memberId : UserId} {status : UserStatus}
    {db : Db} (hcall : s.db.setMemberStatus organizationId memberId status = .ok db) :
    step verify s (.call (.setMemberStatus organizationId memberId status)) = some (s.written memberId status) := by
  have hcall' : s.db.call verify (.setMemberStatus organizationId memberId status) = .ok db := hcall
  have hdb := call_sets hcall' rfl
  subst hdb
  simp only [step, hcall']
  rfl

theorem written_get_of_ne {s : State} {memberId userId : UserId} (h : userId ≠ memberId) (status : UserStatus) :
    (s.written memberId status).db.users.get userId = s.db.users.get userId :=
  Table.get_modify_of_ne _ _ h

/-- Others enter what they entered before. -/
theorem written_canEnter {s : State} {memberId userId : UserId} (h : userId ≠ memberId) (status : UserStatus)
    (organizationId : OrganizationId) :
    (s.written memberId status).canEnter userId organizationId = s.canEnter userId organizationId := by
  have hget := written_get_of_ne (s := s) h status
  have haccount : (s.written memberId status).account userId = s.account userId := by
    unfold State.account
    rw [hget]
    show ((s.cached.filter fun id _ => id != memberId).get userId).or _ = _
    rw [Table.get_filter_of_ne _ h]
  have hsession : (s.written memberId status).db.sessionFor userId = s.db.sessionFor userId := by
    unfold Db.sessionFor
    rw [hget]
  have hswitch : (s.written memberId status).db.switchWorkspace userId organizationId =
      s.db.switchWorkspace userId organizationId := by
    unfold Db.switchWorkspace
    rw [hget]
    rfl
  unfold State.canEnter State.passes
  rw [haccount, hsession, hswitch]

theorem disabled_not_passes {s : State} {memberId : UserId} (hs : Inv (s.written memberId .disabled)) :
    (s.written memberId .disabled).passes memberId = false := by
  rw [Bool.eq_false_iff]
  intro hpasses
  obtain ⟨a, ha, hstatus⟩ := passes_iff.1 hpasses
  rw [hs.account] at ha
  obtain ⟨user, huser, rfl⟩ := Option.map_eq_some_iff.1 ha
  have huser' : (s.db.users.modify memberId fun u => { u with status := .disabled }).get memberId = some user := huser
  rw [Table.get_modify_self] at huser'
  obtain ⟨old, -, rfl⟩ := Option.map_eq_some_iff.1 huser'
  exact hstatus rfl

theorem staysLocal_iff {s : State} {organizationId : OrganizationId} {memberId : UserId} {db : Db}
    (hcall : s.db.setMemberStatus organizationId memberId .disabled = .ok db) :
    staysLocal s (.call (.setMemberStatus organizationId memberId .disabled)) = true ↔
      ∀ other, other ≠ organizationId → s.canEnter memberId other = false := by
  rw [staysLocal, hcall]
  simp only [Except.toOption, Option.isSome_some, Bool.not_true, Bool.false_or, List.all_eq_true,
    Bool.or_eq_true, decide_eq_true_eq, Bool.not_eq_true']
  constructor
  · intro h other hne
    by_contra hcan
    rw [Bool.not_eq_false] at hcan
    exact (h other (canEnter_mem hcan)).elim hne fun hnot => absurd hcan (by rw [hnot]; exact Bool.false_ne_true)
  · intro h other _
    by_cases hne : other = organizationId
    · exact .inl hne
    · exact .inr (h other hne)

/-- Disabling a member takes away the access to the organization and no other access, exactly when there is no
other organization the member can enter. -/
theorem local_iff {s : State} {organizationId : OrganizationId} {memberId : UserId} {db : Db} (hs : Inv s)
    (hcall : s.db.setMemberStatus organizationId memberId .disabled = .ok db) :
    Local s (s.written memberId .disabled) organizationId memberId ↔
      staysLocal s (.call (.setMemberStatus organizationId memberId .disabled)) = true := by
  have hs' : Inv (s.written memberId .disabled) := @step_inv (fun _ _ => true) _ _ _ hs (step_setMemberStatus hcall)
  have hout := canEnter_of_not_passes (disabled_not_passes hs')
  rw [staysLocal_iff hcall]
  constructor
  · intro h other hne
    have hsame := h.others memberId other fun heq => hne (congrArg Prod.snd heq)
    exact hsame.symm.trans (hout other)
  · intro h
    refine ⟨hout organizationId, fun userId other hne => ?_⟩
    by_cases hid : userId = memberId
    · subst hid
      exact (hout other).trans (h other fun heq => hne (by rw [heq])).symm
    · exact written_canEnter hid .disabled other

/-- An account that an organization enables passes the guard. -/
theorem enabled_passes {s : State} {memberId : UserId} (hs : Inv (s.written memberId .active))
    (hknown : ∃ user, s.db.users.get memberId = some user) : (s.written memberId .active).passes memberId = true := by
  obtain ⟨user, huser⟩ := hknown
  refine passes_iff.2 ⟨⟨.active, user.emailVerified⟩, ?_, by rintro ⟨⟩⟩
  rw [hs.account]
  show ((s.db.users.modify memberId fun u => { u with status := .active }).get memberId).map accountState = _
  rw [Table.get_modify_self, huser]
  rfl

/-! ## Every run -/

/-- The cache is right, and the platform has disabled no one yet. -/
structure Initial (s : State) : Prop where
  coherent : ∀ userId a, s.cached.get userId = some a → (s.db.users.get userId).map accountState = some a
  banned : s.banned = []

theorem initial_inv {s : State} (h : Initial s) : Inv s := by
  refine ⟨h.coherent, ?_⟩
  rw [h.banned]
  exact fun userId hmem => absurd hmem List.not_mem_nil

theorem initial_held {s : State} (h : Initial s) : Held s := by
  unfold Held
  rw [h.banned]
  exact fun userId hmem => absurd hmem List.not_mem_nil

/-- In a run each organization takes away the access to itself only, and whom the platform has disabled stays out
until the platform enables them, exactly when no organization disables someone who can enter another one or
enables someone whom the platform has disabled. -/
theorem disabling_local {s₀ s : State} {es : List Event} (hinit : Initial s₀)
    (hrun : run (step verify) s₀ es = some s) :
    ((∀ es₁ organizationId memberId es₂ s₁ s₂ db,
        es = es₁ ++ .call (.setMemberStatus organizationId memberId .disabled) :: es₂ →
        run (step verify) s₀ es₁ = some s₁ →
        s₁.db.setMemberStatus organizationId memberId .disabled = .ok db →
        step verify s₁ (.call (.setMemberStatus organizationId memberId .disabled)) = some s₂ →
        Local s₁ s₂ organizationId memberId) ∧
      ∀ es₁ es₂ t, es = es₁ ++ es₂ → run (step verify) s₀ es₁ = some t →
        ∀ userId ∈ t.banned, Out verify t userId) ↔
    Meets (step verify) (fun s ev => staysLocal s ev = true) s₀ es := by
  have hinv : ∀ {ds : List Event} {t : State}, run (step verify) s₀ ds = some t → Inv t :=
    fun h => run_keeps (fun _ _ _ => step_inv) (initial_inv hinit) h
  constructor
  · rintro ⟨hlocal, hout⟩
    refine Meets.of_steps hrun fun es₁ ev es₂ s₁ s₂ hes h₁ h₂ => ?_
    have hs₂ : run (step verify) s₀ (es₁ ++ [ev]) = some s₂ := by
      rw [run_append, h₁]
      exact run_cons.2 ⟨s₂, h₂, rfl⟩
    cases ev with
    | request userId => rfl
    | expire userId => rfl
    | call ev =>
      cases ev with
      | setMemberStatus organizationId memberId status =>
        cases hcall : s₁.db.setMemberStatus organizationId memberId status with
        | error e => simp only [staysLocal, hcall, Except.toOption, Option.isSome_none, Bool.not_false, Bool.true_or]
        | ok db =>
          have hwritten := Option.some.inj (h₂.symm.trans (step_setMemberStatus hcall))
          cases status with
          | disabled =>
            refine (local_iff (hinv h₁) hcall).1 ?_
            rw [← hwritten]
            exact hlocal es₁ organizationId memberId es₂ s₁ s₂ db hes h₁ hcall h₂
          | active =>
            by_contra hbad
            have hmem : memberId ∈ s₁.banned := by simpa [staysLocal, hcall, Except.toOption] using hbad
            have hmem₂ : memberId ∈ s₂.banned := by
              rw [hwritten]
              exact hmem
            have hes₂ : es = (es₁ ++ [.call (.setMemberStatus organizationId memberId .active)]) ++ es₂ := by
              rw [hes, List.append_assoc, List.singleton_append]
            have hnot := (hout _ es₂ s₂ hes₂ hs₂ memberId hmem₂).not_passes
            have hs := hinv hs₂
            rw [hwritten] at hs hnot
            rw [enabled_passes hs ((hinv h₁).known memberId hmem)] at hnot
            cases hnot
      | _ => rfl
  · intro hok
    constructor
    · intro es₁ organizationId memberId es₂ s₁ s₂ db hes h₁ hcall h₂
      rw [hes] at hok
      cases Option.some.inj (h₂.symm.trans (step_setMemberStatus hcall))
      exact (local_iff (hinv h₁) hcall).2 (meets_append hok h₁).2.1
    · intro es₁ es₂ t hes ht userId hmem
      rw [hes] at hok
      have hheld : Held t := run_inv (I := Held) (fun _ _ _ hu hev h => step_held hu hev h) (initial_held hinit)
        (meets_append hok ht).1 ht
      obtain ⟨user, huser, hstatus⟩ := hheld userId hmem
      exact out_of_disabled (hinv ht) huser hstatus

namespace Example

def student (name : String) (home : OrganizationId) : User :=
  ⟨name, name, "hash", .student, some home, .active, true⟩

/-- Aisha is a student of two organizations, Bilal of one. -/
def schools : State where
  db := {
    users := (Table.empty.insert "aisha" (student "aisha" "noor")).insert "bilal" (student "bilal" "acme")
    memberships := ((Table.empty.insert ("aisha", "noor") ⟨.student, .active⟩).insert ("aisha", "acme")
      ⟨.student, .active⟩).insert ("bilal", "acme") ⟨.student, .active⟩
    invites := Table.empty
    enrollments := []
    now := 0 }
  cached := Table.empty
  banned := []

def anyPassword : String → String → Bool := fun _ _ => true

def disable (organizationId : OrganizationId) (memberId : UserId) : Event :=
  .call (.setMemberStatus organizationId memberId .disabled)

def enable (organizationId : OrganizationId) (memberId : UserId) : Event :=
  .call (.setMemberStatus organizationId memberId .active)

def ban (userId : UserId) : Event := .call (.setUserStatus "root" userId .disabled)

theorem schools_initial : Initial schools := ⟨fun userId a h => (by cases h), rfl⟩

end Example

open Example in
theorem bilal_disabled : ∃ s, run (step anyPassword) schools [disable "acme" "bilal", ban "aisha"] = some s ∧
    s.canEnter "bilal" "acme" = false ∧ s.banned = ["aisha"] ∧ Out anyPassword s "aisha" := by
  have hrun : (run (step anyPassword) schools [disable "acme" "bilal", ban "aisha"]).map
      (fun s => (s.canEnter "bilal" "acme", s.banned)) = some (false, ["aisha"]) := by decide
  obtain ⟨s, hs, hseen⟩ := Option.map_eq_some_iff.1 hrun
  simp only [Prod.mk.injEq] at hseen
  refine ⟨s, hs, hseen.1, hseen.2, ?_⟩
  exact ((disabling_local schools_initial hs).2 (by decide)).2 _ [] s (List.append_nil _).symm hs "aisha"
    (by rw [hseen.2]; exact List.mem_singleton_self _)

open Example in
/-- One organization disables Aisha: the other is closed to her, too. The platform disables Bilal: his organization
lets him in again. -/
theorem disabled_everywhere :
    (schools.canEnter "aisha" "noor" = true ∧
      ∃ s, run (step anyPassword) schools [disable "acme" "aisha"] = some s ∧ s.canEnter "aisha" "noor" = false) ∧
    ∃ s, run (step anyPassword) schools [ban "bilal", enable "acme" "bilal"] = some s ∧ s.banned = ["bilal"] ∧
      s.passes "bilal" = true ∧ s.canEnter "bilal" "acme" = true := by
  have hother : (run (step anyPassword) schools [disable "acme" "aisha"]).map (fun s => s.canEnter "aisha" "noor") =
      some false := by decide
  have hback : (run (step anyPassword) schools [ban "bilal", enable "acme" "bilal"]).map
      (fun s => (s.banned, s.passes "bilal", s.canEnter "bilal" "acme")) = some (["bilal"], true, true) := by
    decide
  obtain ⟨s, hs, hseen⟩ := Option.map_eq_some_iff.1 hback
  simp only [Prod.mk.injEq] at hseen
  exact ⟨⟨by decide, Option.map_eq_some_iff.1 hother⟩, s, hs, hseen⟩

end Livetich.Auth.Disabling
