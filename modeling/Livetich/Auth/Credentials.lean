/-
Credentials: every token is signed with one key, and its claims say which doors it opens. The global guard and the two
guards of the platform console, the gateways and the previews, and every call that signs a token; a request waits
between its guards and its handler. Each door opens only to tokens meant for it, a token that is restricted signs no
other, and every token goes back to somebody who proved who they are.
-/
import Livetich.Auth.Policy
import Livetich.Lib.Table

namespace Livetich.Auth.Credentials

open TransSys Lib

/-! ## Tokens -/

inductive Claims
  | access (payload : JwtPayload)
  /-- `{ su, purpose: 'admin-stepup' }`. -/
  | stepUp (su : UserId)
  deriving DecidableEq

/-- A signed token. Times are whole seconds, as in `iat` and `exp`. -/
structure Issued where
  claims : Claims
  iat : Nat
  exp : Nat
  /-- The token of the request that it was signed for; no code reads it. -/
  parent : Option Nat
  deriving DecidableEq

def days (n : Nat) : Nat := n * 24 * 60 * 60

/-- A token that names a recording or a preview. -/
def restricted (payload : JwtPayload) : Bool := payload.recorder.isSome || payload.preview.isSome

/-! ## Routes -/

inductive Action
  | impersonate (userId : UserId)
  | setSuperAdmin (userId : UserId) (value : Bool)
  | setRole (userId : UserId) (role : Role)
  | other
  deriving DecidableEq

/-- `StepUpMaxAge`: five minutes for the most destructive, else half an hour. -/
def Action.maxAge : Action → Nat
  | .other => 30 * 60
  | _ => 5 * 60

inductive Route
  | verifyEmail
  /-- `switchWorkspace`, `joinWorkspace` and `createWorkspace`, once the service has found the place and the role. -/
  | workspace (role : Role) (organizationId : OrganizationId)
  | realtimeToken
  | previewToken (sessionId : SessionId) (port : Nat)
  /-- `RecordingsService.start`, which mints a token for the recorder. -/
  | record (sessionId : SessionId) (recordingId : String)
  | adminReauth (password : String)
  /-- A route marked `AllowRecorder`; none of them signs. -/
  | filmed
  | other (allowUnverified : Bool)
  | console (action : Action)
  deriving DecidableEq

def Route.allowRecorder : Route → Bool
  | .filmed => true
  | _ => false

def Route.allowUnverified : Route → Bool
  | .verifyEmail => true
  | .other allow => allow
  | _ => false

/-! ## The server -/

structure User where
  email : String
  name : String
  role : Role
  organizationId : Option OrganizationId
  status : UserStatus
  isSuperAdmin : Bool
  passwordHash : String
  deriving DecidableEq

/-- A request between its awaits, with the token it came with. -/
inductive Task
  /-- The handler of a route is next. -/
  | serving (token : Nat) (payload : JwtPayload) (route : Route)
  /-- `SuperAdminGuard` is next, and then `AdminStepUpGuard` with the header. -/
  | confirming (token : Nat) (payload : JwtPayload) (header : Option Nat) (action : Action)
  | stepping (token : Nat) (payload : JwtPayload) (header : Option Nat) (action : Action)
  /-- Both have let it pass, at `confirmed`; the handler is next. -/
  | acting (token : Nat) (payload : JwtPayload) (action : Action) (confirmed : Nat)
  deriving DecidableEq

inductive ProofKind
  | registered
  | password
  | passcode
  /-- The password once more, for the console. -/
  | reauth
  deriving DecidableEq

/-- Somebody proved to be a user. -/
structure Proof where
  user : UserId
  kind : ProofKind
  time : Nat
  deriving DecidableEq

/-- An impersonation: who, as whom, when, and when the guards let it pass. -/
structure Loan where
  admin : UserId
  target : UserId
  confirmed : Nat
  time : Nat
  deriving DecidableEq

inductive Door
  | api (allowRecorder : Bool)
  | console (maxAge : Nat)
  | gateway
  | preview (sessionId : SessionId) (port : Nat)
  deriving DecidableEq

structure Opened where
  door : Door
  token : Nat
  time : Nat
  deriving DecidableEq

structure State where
  users : Table UserId User
  /-- The tokens by number. -/
  issued : List Issued
  calls : Pool Task
  nextCall : Nat
  now : Nat
  /-- What has been proved, lent and opened, latest first; no code reads these. -/
  proofs : List Proof
  lent : List Loan
  opened : List Opened

def start (users : Table UserId User) (now : Nat) : State := ⟨users, [], Pool.empty, 0, now, [], [], []⟩

/-- What a handler reads and what its service decides of a request. -/
structure Reads where
  permitted : Bool
  visit : Policy.Visit

inductive Event
  | register (userId : UserId) (user : User)
  | login (email password : String)
  /-- `QuickAccess.redeem` has vouched for a user. -/
  | vouched (userId : UserId)
  /-- A request with its token and its step-up header, and what the cache of accounts answers. -/
  | request (token : Nat) (header : Option Nat) (route : Route) (account : Option AccountState)
  | resume (i : Nat) (reads : Reads)
  | fail (i : Nat)
  /-- `handleConnection` of a gateway. -/
  | handshake (token : Nat) (account : Option AccountState)
  /-- `ProxyController.forward` and `acceptUpgrade` of a preview. -/
  | preview (token : Nat) (visit : Policy.Visit)
  /-- Whatever else is written to an account, by anybody. -/
  | write (userId : UserId) (f : User → User)
  | tick (now : Nat)

/-- `jwt.verify`: only tokens that the server has signed are good, until they expire. -/
def State.verify (s : State) (token : Nat) : Option Issued := (s.issued[token]?).filter fun x => s.now < x.exp

/-- The payload of a token that names a user: a step-up token names none, and no account is found for it. -/
def State.user (s : State) (token : Nat) : Option JwtPayload :=
  match (s.verify token).map Issued.claims with
  | some (.access payload) => some payload
  | _ => none

/-- `JwtAuthGuard.canActivate`. -/
def jwtAuthGuard (route : Route) (payload : JwtPayload) (account : Option AccountState) : Bool :=
  !(payload.recorder.isSome && !route.allowRecorder) && payload.preview.isNone &&
    account.any fun a => a.status != .disabled && (a.emailVerified || route.allowUnverified || payload.recorder.isSome)

/-- `SuperAdminGuard`, and what `adminReauth` asks first. -/
def platformAdmin (configured : String → Bool) (user : User) : Bool := user.isSuperAdmin && configured user.email

/-- `AdminStepUpGuard.canActivate`. -/
def State.steppedUp (s : State) (payload : JwtPayload) (header : Option Nat) (action : Action) : Bool :=
  match header.bind s.verify with
  | some ⟨.stepUp su, iat, _, _⟩ => su == payload.sub && decide (s.now - iat ≤ action.maxAge)
  | _ => false

def State.sign (s : State) (claims : Claims) (ttl : Nat) (parent : Option Nat) : State :=
  { s with issued := s.issued ++ [⟨claims, s.now, s.now + ttl, parent⟩] }

def State.prove (s : State) (userId : UserId) (kind : ProofKind) : State :=
  { s with proofs := ⟨userId, kind, s.now⟩ :: s.proofs }

def State.open (s : State) (door : Door) (token : Nat) : State :=
  { s with opened := ⟨door, token, s.now⟩ :: s.opened }

def State.begin (s : State) (t : Task) : State :=
  { s with calls := s.calls.put s.nextCall (some t), nextCall := s.nextCall + 1 }

/-- `toAuthResult` of a row. -/
def session (userId : UserId) (user : User) (role : Role) (organizationId : Option OrganizationId) : Claims :=
  .access ⟨userId, role, user.name, organizationId, none, none⟩

/-- The handler of a route. -/
def State.serve (configured : String → Bool) (bcryptVerify : String → String → Bool) (s : State) (reads : Reads)
    (token : Nat) (payload : JwtPayload) : Route → State
  | .verifyEmail => match s.users.get payload.sub with
    | some user =>
      if reads.permitted then s.sign (session payload.sub user user.role user.organizationId) (days 7) (some token)
      else s
    | none => s
  | .workspace role organizationId => match s.users.get payload.sub with
    | some user =>
      if reads.permitted then s.sign (session payload.sub user role (some organizationId)) (days 7) (some token)
      else s
    | none => s
  | .realtimeToken => s.sign (.access { payload with recorder := none, preview := none }) (15 * 60) (some token)
  | .previewToken sessionId port =>
    match reads.visit.reads.session.filter (fun session => session.id == sessionId && session.status != .ended) with
    | some session =>
      if (Policy.ownsOrEnrolled payload session.course reads.visit.reads.enrolled).isOk then
        s.sign (.access { payload with recorder := none, preview := some ⟨sessionId, port⟩ }) (4 * 60 * 60) (some token)
      else s
    | none => s
  | .record sessionId recordingId => match s.users.get payload.sub with
    | some user =>
      if reads.permitted then
        s.sign (.access ⟨payload.sub, user.role, user.name, user.organizationId, some ⟨sessionId, recordingId⟩, none⟩)
          (12 * 60 * 60) (some token)
      else s
    | none => s
  | .adminReauth password => match s.users.get payload.sub with
    | some user =>
      if platformAdmin configured user && bcryptVerify password user.passwordHash then
        (s.prove payload.sub .reauth).sign (.stepUp payload.sub) (30 * 60) (some token)
      else s
    | none => s
  | .filmed => s
  | .other _ => s
  | .console _ => s

/-- The handler of an action of the console. -/
def State.act (configured : String → Bool) (s : State) (token : Nat) (payload : JwtPayload) (confirmed : Nat) :
    Action → State
  | .impersonate userId => match s.users.get userId with
    | some user =>
      if user.isSuperAdmin && userId != payload.sub then s
      else if user.status = .disabled then s
      else
        { s with lent := ⟨payload.sub, userId, confirmed, s.now⟩ :: s.lent }.sign
          (session userId user user.role user.organizationId) (30 * 60) (some token)
    | none => s
  | .setSuperAdmin userId value => match s.users.get userId with
    | some user =>
      if value && !configured user.email then s
      else if userId = payload.sub ∧ value = false then s
      else { s with users := s.users.modify userId fun user => { user with isSuperAdmin := value } }
    | none => s
  | .setRole userId role => { s with users := s.users.modify userId fun user => { user with role } }
  | .other => s

def State.finish (s : State) (i : Nat) : State := { s with calls := s.calls.put i none }

/-- A waiting request goes on. -/
def State.resume (configured : String → Bool) (bcryptVerify : String → String → Bool) (s : State) (i : Nat)
    (reads : Reads) : Task → State
  | .serving token payload route => (s.serve configured bcryptVerify reads token payload route).finish i
  | .confirming token payload header action =>
    if (s.users.get payload.sub).any (platformAdmin configured) then
      { s with calls := s.calls.put i (some (.stepping token payload header action)) }
    else s.finish i
  | .stepping token payload header action =>
    if s.steppedUp payload header action then
      { s with calls := s.calls.put i (some (.acting token payload action s.now)) }.open (.console action.maxAge) token
    else s.finish i
  | .acting token payload action confirmed => (s.act configured token payload confirmed action).finish i

def step (configured : String → Bool) (bcryptVerify : String → String → Bool) (s : State) : Event → Option State
  | .register userId user =>
    if (s.users.get userId).isSome || s.users.entries.any (·.2.email == user.email) then none
    else
      let s := { s with users := s.users.insert userId user }
      some ((s.prove userId .registered).sign (session userId user user.role user.organizationId) (days 7) none)
  | .login email password => match s.users.entries.find? (·.2.email == email) with
    | some (userId, user) =>
      if bcryptVerify password user.passwordHash && user.status != .disabled then
        some ((s.prove userId .password).sign (session userId user user.role user.organizationId) (days 7) none)
      else some s
    | none => some s
  | .vouched userId => match s.users.get userId with
    | some user =>
      if user.status != .disabled then
        some ((s.prove userId .passcode).sign (session userId user user.role user.organizationId) (days 7) none)
      else some s
    | none => some s
  | .request token header route account => match s.user token with
    | some payload =>
      if jwtAuthGuard route payload account then
        match route with
        | .console action => some (s.begin (.confirming token payload header action))
        | route => some ((s.begin (.serving token payload route)).open (.api route.allowRecorder) token)
      else some s
    | none => some s
  | .resume i reads => (s.calls.get i).map (s.resume configured bcryptVerify i reads)
  | .fail i => (s.calls.get i).map fun _ => s.finish i
  | .handshake token account => match s.user token with
    | some payload =>
      if payload.preview.isNone && Silence.permitted account then some (s.open .gateway token) else some s
    | none => some s
  | .preview token visit => match s.user token with
    | some payload =>
      if (Policy.forward payload visit).isOk then some (s.open (.preview visit.sessionId visit.port) token) else some s
    | none => some s
  | .write userId f => some { s with users := s.users.modify userId f }
  | .tick now => if s.now ≤ now then some { s with now } else none

/-! ## Where a token comes from -/

/-- The user proved to be themselves, at `time` or before. -/
def Proven (s : State) (user : UserId) (time : Nat) : Prop := ∃ p ∈ s.proofs, p.user = user ∧ p.time ≤ time

/-- The user gave the password once more, no longer than `maxAge` before `time`. -/
def Reauthed (s : State) (user : UserId) (time maxAge : Nat) : Prop :=
  ∃ p ∈ s.proofs, p.user = user ∧ p.kind = .reauth ∧ p.time ≤ time ∧ time ≤ p.time + maxAge

/-- The user proved to be themselves, or an admin who had given the password once more acts as the user. -/
def Rooted (s : State) (user : UserId) (time : Nat) : Prop :=
  Proven s user time ∨ ∃ l ∈ s.lent, l.target = user ∧ l.time ≤ time ∧ Reauthed s l.admin l.confirmed (5 * 60)

def Claims.Rooted (s : State) (time : Nat) : Claims → Prop
  | .access payload => Credentials.Rooted s payload.sub time
  | .stepUp su => ∃ p ∈ s.proofs, p.user = su ∧ p.kind = .reauth ∧ p.time = time

/-- The token of that number has the payload. -/
def Holds (s : State) (token : Nat) (payload : JwtPayload) : Prop :=
  ∃ x, s.issued[token]? = some x ∧ x.claims = .access payload

structure Issued.Sound (s : State) (x : Issued) : Prop where
  past : x.iat ≤ s.now
  rooted : x.claims.Rooted s x.iat
  /-- What it was signed for was the request of an unrestricted token. -/
  parent : ∀ token ∈ x.parent, ∃ payload, Holds s token payload ∧ restricted payload = false

/-- What a door lets in, at `time`. -/
def Door.Admits (s : State) (x : Issued) (payload : JwtPayload) (time : Nat) : Door → Prop
  | .api allowRecorder => time < x.exp ∧ payload.preview = none ∧
      (payload.recorder.isSome = true → allowRecorder = true)
  | .console maxAge => restricted payload = false ∧ Reauthed s payload.sub time maxAge
  | .gateway => time < x.exp ∧ payload.preview = none
  | .preview sessionId port => time < x.exp ∧ payload.recorder = none ∧ ∀ p ∈ payload.preview, p = ⟨sessionId, port⟩

structure Opened.Sound (s : State) (o : Opened) (x : Issued) (payload : JwtPayload) : Prop where
  issued : s.issued[o.token]? = some x
  claims : x.claims = .access payload
  past : x.iat ≤ o.time
  admits : o.door.Admits s x payload o.time

def Task.Sound (s : State) : Task → Prop
  | .serving token payload route => Holds s token payload ∧ payload.preview = none ∧
      (payload.recorder.isSome = true → route.allowRecorder = true)
  | .confirming token payload _ _ => Holds s token payload ∧ restricted payload = false
  | .stepping token payload _ _ => Holds s token payload ∧ restricted payload = false
  | .acting token payload action confirmed => Holds s token payload ∧ restricted payload = false ∧
      Reauthed s payload.sub confirmed action.maxAge

structure Inv (s : State) : Prop where
  issued : ∀ (k : Nat) (x : Issued), s.issued[k]? = some x → x.Sound s
  calls : ∀ i t, s.calls.get i = some t → t.Sound s
  opened : ∀ o ∈ s.opened, ∃ x payload, o.Sound s x payload

theorem inv_start (users : Table UserId User) (now : Nat) : Inv (start users now) where
  issued _ _ h := (nomatch h)
  calls _ _ h := (nomatch h)
  opened _ h := (nomatch h)

/-! ## What is known stays known -/

/-- Nothing signed, proved or lent is taken back. -/
structure Grows (s t : State) : Prop where
  issued : ∀ (k : Nat) (x : Issued), s.issued[k]? = some x → t.issued[k]? = some x
  proofs : s.proofs ⊆ t.proofs
  lent : s.lent ⊆ t.lent
  now : s.now ≤ t.now

section Grows

variable {s t : State} {user : UserId} {payload : JwtPayload} {time time' maxAge token : Nat}

theorem Grows.still (hissued : t.issued = s.issued) (hproofs : t.proofs = s.proofs) (hlent : t.lent = s.lent)
    (hnow : t.now = s.now) : Grows s t where
  issued _ _ hx := hissued ▸ hx
  proofs := hproofs ▸ List.Subset.refl _
  lent := hlent ▸ List.Subset.refl _
  now := Nat.le_of_eq hnow.symm

theorem Reauthed.mono (h : Reauthed s user time maxAge) (hproofs : s.proofs ⊆ t.proofs) :
    Reauthed t user time maxAge := by
  obtain ⟨p, hp, hrest⟩ := h
  exact ⟨p, hproofs hp, hrest⟩

theorem Rooted.mono (h : Rooted s user time) (hg : Grows s t) (hle : time ≤ time') : Rooted t user time' := by
  rcases h with ⟨p, hp, huser, hp'⟩ | ⟨l, hl, htarget, hl', hre⟩
  · exact .inl ⟨p, hg.proofs hp, huser, Nat.le_trans hp' hle⟩
  · exact .inr ⟨l, hg.lent hl, htarget, Nat.le_trans hl' hle, hre.mono hg.proofs⟩

theorem Claims.Rooted.mono {claims : Claims} (h : claims.Rooted s time) (hg : Grows s t) : claims.Rooted t time := by
  cases claims with
  | access payload => exact Credentials.Rooted.mono h hg (Nat.le_refl _)
  | stepUp su =>
    obtain ⟨p, hp, hrest⟩ := h
    exact ⟨p, hg.proofs hp, hrest⟩

theorem Holds.mono (h : Holds s token payload) (hg : Grows s t) : Holds t token payload := by
  obtain ⟨x, hx, hclaims⟩ := h
  exact ⟨x, hg.issued _ _ hx, hclaims⟩

theorem Issued.Sound.mono {x : Issued} (h : x.Sound s) (hg : Grows s t) : x.Sound t where
  past := Nat.le_trans h.past hg.now
  rooted := h.rooted.mono hg
  parent k hk := by
    obtain ⟨payload, hholds, hfree⟩ := h.parent k hk
    exact ⟨payload, hholds.mono hg, hfree⟩

theorem Door.Admits.mono {door : Door} {x : Issued} (h : door.Admits s x payload time) (hg : Grows s t) :
    door.Admits t x payload time := by
  cases door with
  | api allowRecorder => exact h
  | console maxAge => exact ⟨h.1, h.2.mono hg.proofs⟩
  | gateway => exact h
  | preview sessionId port => exact h

theorem Task.Sound.mono {task : Task} (h : task.Sound s) (hg : Grows s t) : task.Sound t := by
  cases task with
  | serving token payload route => exact ⟨h.1.mono hg, h.2⟩
  | confirming token payload header action => exact ⟨h.1.mono hg, h.2⟩
  | stepping token payload header action => exact ⟨h.1.mono hg, h.2⟩
  | acting token payload action confirmed => exact ⟨h.1.mono hg, h.2.1, h.2.2.mono hg.proofs⟩

/-- The invariant of a state that has grown, from what is new in it. -/
theorem Inv.grow (h : Inv s) (hg : Grows s t)
    (hissued : ∀ (k : Nat) (x : Issued), t.issued[k]? = some x → s.issued[k]? = some x ∨ x.Sound t)
    (hcalls : ∀ i task, t.calls.get i = some task → s.calls.get i = some task ∨ task.Sound t)
    (hopened : ∀ o ∈ t.opened, o ∈ s.opened ∨ ∃ x payload, o.Sound t x payload) : Inv t where
  issued k x hx := by
    rcases hissued k x hx with hx | hx
    · exact (h.issued k x hx).mono hg
    · exact hx
  calls i task ht := by
    rcases hcalls i task ht with ht | ht
    · exact (h.calls i task ht).mono hg
    · exact ht
  opened o ho := by
    rcases hopened o ho with ho | ho
    · obtain ⟨x, payload, hsound⟩ := h.opened o ho
      exact ⟨x, payload, hg.issued _ _ hsound.issued, hsound.claims, hsound.past, hsound.admits.mono hg⟩
    · exact ho

end Grows

/-! ## What a call adds -/

section Adds

variable {s s' : State} {i : Nat} {token : Nat} {payload : JwtPayload} {route : Route} {action : Action}
  {configured : String → Bool} {bcryptVerify : String → String → Bool} {reads : Reads}

theorem Inv.rooted (h : Inv s) (hholds : Holds s token payload) : Rooted s payload.sub s.now := by
  obtain ⟨x, hx, hclaims⟩ := hholds
  have hsound := h.issued token x hx
  have hroot := hsound.rooted
  rw [hclaims] at hroot
  exact Rooted.mono hroot (.still rfl rfl rfl rfl) hsound.past

theorem Inv.finish (h : Inv s) : Inv (s.finish i) := by
  refine h.grow (.still rfl rfl rfl rfl) (fun _ _ hx => .inl hx) (fun j task hj => ?_) fun _ ho => .inl ho
  rcases Pool.get_put_cases hj with ⟨-, hnone⟩ | ⟨-, hj⟩
  · cases hnone
  · exact .inl hj

/-- A request waits for its next task. -/
theorem Inv.put (h : Inv s) {task : Task} (htask : task.Sound s) {nextCall : Nat} :
    Inv { s with calls := s.calls.put i (some task), nextCall } := by
  have hg : Grows s { s with calls := s.calls.put i (some task), nextCall } := .still rfl rfl rfl rfl
  refine h.grow hg (fun _ _ hx => .inl hx) (fun j u hj => ?_) fun _ ho => .inl ho
  rcases Pool.get_put_cases hj with ⟨-, hu⟩ | ⟨-, hj⟩
  · cases hu
    exact .inr (htask.mono hg)
  · exact .inl hj

theorem Inv.users (h : Inv s) (users : Table UserId User) : Inv { s with users } :=
  h.grow (.still rfl rfl rfl rfl) (fun _ _ hx => .inl hx) (fun _ _ ht => .inl ht) fun _ ho => .inl ho

theorem Inv.prove (h : Inv s) (userId : UserId) (kind : ProofKind) : Inv (s.prove userId kind) :=
  h.grow ⟨fun _ _ hx => hx, List.subset_cons_self _ _, List.Subset.refl _, Nat.le_refl _⟩ (fun _ _ hx => .inl hx)
    (fun _ _ ht => .inl ht) fun _ ho => .inl ho

theorem Inv.lend (h : Inv s) (loan : Loan) : Inv { s with lent := loan :: s.lent } :=
  h.grow ⟨fun _ _ hx => hx, List.Subset.refl _, List.subset_cons_self _ _, Nat.le_refl _⟩ (fun _ _ hx => .inl hx)
    (fun _ _ ht => .inl ht) fun _ ho => .inl ho

/-- A token is signed for somebody it may be signed for, in the request of a token that is not restricted. -/
theorem Inv.sign (h : Inv s) {claims : Claims} {ttl : Nat} {parent : Option Nat} (hrooted : claims.Rooted s s.now)
    (hparent : ∀ k ∈ parent, ∃ payload, Holds s k payload ∧ restricted payload = false) :
    Inv (s.sign claims ttl parent) := by
  have hlist : (s.sign claims ttl parent).issued = s.issued ++ [⟨claims, s.now, s.now + ttl, parent⟩] := rfl
  have hg : Grows s (s.sign claims ttl parent) := by
    refine ⟨fun k x hx => ?_, List.Subset.refl _, List.Subset.refl _, Nat.le_refl _⟩
    obtain ⟨hk, -⟩ := List.getElem?_eq_some_iff.1 hx
    rw [hlist, List.getElem?_append_left hk, hx]
  refine h.grow hg (fun k x hx => ?_) (fun _ _ ht => .inl ht) fun _ ho => .inl ho
  rw [hlist] at hx
  by_cases hk : k < s.issued.length
  · rw [List.getElem?_append_left hk] at hx
    exact .inl hx
  · rw [List.getElem?_append_right (Nat.le_of_not_lt hk)] at hx
    rw [List.mem_singleton.1 (List.mem_of_getElem? hx)]
    refine .inr ⟨Nat.le_refl _, hrooted.mono hg, fun parent hp => ?_⟩
    obtain ⟨payload, hholds, hfree⟩ := hparent parent hp
    exact ⟨payload, hholds.mono hg, hfree⟩

/-- A door lets a good token in. -/
theorem Inv.open (h : Inv s) {door : Door} {x : Issued} (hx : s.issued[token]? = some x)
    (hclaims : x.claims = .access payload) (hadmits : door.Admits s x payload s.now) : Inv (s.open door token) := by
  have hg : Grows s (s.open door token) := .still rfl rfl rfl rfl
  refine h.grow hg (fun _ _ hy => .inl hy) (fun _ _ ht => .inl ht) fun o ho => ?_
  rcases List.mem_cons.1 ho with rfl | ho
  · exact .inr ⟨x, payload, hx, hclaims, (h.issued token x hx).past, hadmits.mono hg⟩
  · exact .inl ho

theorem user_eq_some (h : s.user token = some payload) :
    ∃ x, s.issued[token]? = some x ∧ x.claims = .access payload ∧ s.now < x.exp := by
  unfold State.user State.verify at h
  cases hx : s.issued[token]? with
  | none =>
    rw [hx] at h
    cases h
  | some x =>
    rw [hx, Option.filter_some] at h
    split at h
    · rename_i heq
      split at heq
      · rename_i hexp
        cases h
        exact ⟨x, rfl, Option.some.inj heq, by simpa using hexp⟩
      · cases heq
    · cases h

/-- A request that has passed the guard signs a token for its own user, and only if its token is not restricted. -/
theorem Inv.signFor (h : Inv s) (hholds : Holds s token payload) (hfree : restricted payload = false)
    {payload' : JwtPayload} (hsub : payload'.sub = payload.sub) (ttl : Nat) :
    Inv (s.sign (.access payload') ttl (some token)) := by
  refine h.sign ?_ fun k hk => ?_
  · show Rooted s payload'.sub s.now
    rw [hsub]
    exact h.rooted hholds
  · cases hk
    exact ⟨payload, hholds, hfree⟩

theorem Inv.serve (h : Inv s) (htask : Task.Sound s (.serving token payload route)) :
    Inv (s.serve configured bcryptVerify reads token payload route) := by
  obtain ⟨hholds, hpreview, hrecorder⟩ := htask
  have hfree : route.allowRecorder = false → restricted payload = false := by
    -- The guard keeps recorder tokens to the routes that are marked for them, and none of those signs.
    intro hroute
    unfold restricted
    rw [hpreview]
    cases hr : payload.recorder with
    | none => rfl
    | some claim =>
      rw [hr, hroute] at hrecorder
      cases hrecorder rfl
  cases route with
  | verifyEmail | workspace role organizationId | previewToken sessionId port | record sessionId recordingId =>
    unfold State.serve
    dsimp only
    split
    · split
      · exact h.signFor hholds (hfree rfl) (by rfl) _
      · exact h
    · exact h
  | realtimeToken => exact h.signFor hholds (hfree rfl) (by rfl) _
  | adminReauth password =>
    unfold State.serve
    dsimp only
    split
    · split
      · -- the password that was given is what the step-up token is signed on
        refine (h.prove _ _).sign ⟨_, List.mem_cons_self, rfl, rfl, rfl⟩ fun k hk => ?_
        cases hk
        exact ⟨payload, hholds, hfree rfl⟩
      · exact h
    · exact h
  | filmed | other allow | console action => exact h

theorem Inv.act (h : Inv s) {confirmed : Nat} (htask : Task.Sound s (.acting token payload action confirmed)) :
    Inv (s.act configured token payload confirmed action) := by
  obtain ⟨hholds, hfree, hre⟩ := htask
  cases action with
  | impersonate userId =>
    unfold State.act
    dsimp only
    split
    · split
      · exact h
      · split
        · exact h
        · refine (h.lend _).sign (.inr ⟨_, List.mem_cons_self, rfl, Nat.le_refl _, hre⟩) fun k hk => ?_
          cases hk
          exact ⟨payload, hholds, hfree⟩
    · exact h
  | setSuperAdmin userId value =>
    unfold State.act
    dsimp only
    split
    · split
      · exact h
      · split
        · exact h
        · exact h.users _
    · exact h
  | setRole userId role => exact h.users _
  | other => exact h

theorem steppedUp_eq_true {header : Option Nat} (h : Inv s) (hstep : s.steppedUp payload header action = true) :
    Reauthed s payload.sub s.now action.maxAge := by
  unfold State.steppedUp at hstep
  split at hstep
  · rename_i su iat _ _ hx
    obtain ⟨k, -, hx⟩ := Option.bind_eq_some_iff.1 hx
    obtain ⟨hx, -⟩ := Option.filter_eq_some_iff.1 hx
    have hsound := h.issued k _ hx
    obtain ⟨p, hp, huser, hkind, htime⟩ := hsound.rooted
    have hpast := hsound.past
    simp only [Bool.and_eq_true, beq_iff_eq, decide_eq_true_eq] at hstep
    dsimp only at htime hpast
    exact ⟨p, hp, huser.trans hstep.1, hkind, by omega, by omega⟩
  · cases hstep

theorem Inv.resume (h : Inv s) {task : Task} (hi : s.calls.get i = some task) :
    Inv (s.resume configured bcryptVerify i reads task) := by
  have htask := h.calls i task hi
  cases task with
  | serving token payload route => exact (h.serve htask).finish
  | confirming token payload header action =>
    unfold State.resume
    dsimp only
    split
    · exact h.put (show Task.Sound s (.stepping token payload header action) from htask)
    · exact h.finish
  | stepping token payload header action =>
    unfold State.resume
    dsimp only
    split
    · rename_i hstep
      have hre := steppedUp_eq_true h hstep
      obtain ⟨x, hx, hclaims⟩ := htask.1
      have hnext : Task.Sound s (.acting token payload action s.now) := ⟨htask.1, htask.2, hre⟩
      exact (h.put hnext).open hx hclaims ⟨htask.2, hre⟩
    · exact h.finish
  | acting token payload action confirmed => exact (h.act htask).finish

end Adds

/-! ## Runs -/

section Runs

variable {configured : String → Bool} {bcryptVerify : String → String → Bool} {s s' : State}

/-- Somebody proves to be a user and is signed in. -/
theorem Inv.signIn (h : Inv s) (userId : UserId) (user : User) (kind : ProofKind) (role : Role)
    (organizationId : Option OrganizationId) :
    Inv ((s.prove userId kind).sign (session userId user role organizationId) (days 7) none) := by
  refine (h.prove userId kind).sign ?_ fun _ hk => (nomatch hk)
  exact .inl ⟨_, List.mem_cons_self, rfl, Nat.le_refl _⟩

theorem guard_eq_true {route : Route} {payload : JwtPayload} {account : Option AccountState}
    (h : jwtAuthGuard route payload account = true) :
    payload.preview = none ∧ (payload.recorder.isSome = true → route.allowRecorder = true) := by
  unfold jwtAuthGuard at h
  simp only [Bool.and_eq_true, Option.isNone_iff_eq_none] at h
  obtain ⟨⟨hrecorder, hpreview⟩, -⟩ := h
  refine ⟨hpreview, fun hsome => ?_⟩
  rw [hsome] at hrecorder
  simpa using hrecorder

theorem forward_isOk {payload : JwtPayload} {visit : Policy.Visit} (h : (Policy.forward payload visit).isOk = true) :
    payload.recorder = none ∧ ∀ p ∈ payload.preview, p = ⟨visit.sessionId, visit.port⟩ := by
  cases hforward : Policy.forward payload visit with
  | error e =>
    rw [hforward] at h
    cases h
  | ok session =>
    unfold Policy.forward at hforward
    obtain ⟨_, hscope, hforward⟩ := bind_ok_iff.1 hforward
    obtain ⟨_, hrecorder, -⟩ := bind_ok_iff.1 hforward
    refine ⟨ensure_ok_iff.1 hrecorder, fun p hp => ?_⟩
    obtain ⟨hsession, hport⟩ := ensure_ok_iff.1 hscope p hp
    obtain ⟨sessionId, port⟩ := p
    dsimp only at hsession hport
    rw [hsession, hport]

theorem inv_step {e : Event} (h : Inv s) (hs : step configured bcryptVerify s e = some s') : Inv s' := by
  cases e with
  | register userId user =>
    unfold step at hs
    dsimp only at hs
    split at hs
    · cases hs
    · cases hs
      exact (h.users _).signIn userId user .registered _ _
  | login email password =>
    unfold step at hs
    dsimp only at hs
    split at hs
    · split at hs
      · cases hs
        exact h.signIn _ _ .password _ _
      · cases hs
        exact h
    · cases hs
      exact h
  | vouched userId =>
    unfold step at hs
    dsimp only at hs
    split at hs
    · split at hs
      · cases hs
        exact h.signIn _ _ .passcode _ _
      · cases hs
        exact h
    · cases hs
      exact h
  | request token header route account =>
    unfold step at hs
    dsimp only at hs
    split at hs
    · rename_i payload huser
      obtain ⟨x, hx, hclaims, hexp⟩ := user_eq_some huser
      split at hs
      · rename_i hguard
        obtain ⟨hpreview, hrecorder⟩ := guard_eq_true hguard
        split at hs
        · rename_i action
          cases hs
          -- a route of the console is marked for no recorder
          refine h.put (show Task.Sound s (.confirming token payload header action) from ⟨⟨x, hx, hclaims⟩, ?_⟩)
          unfold restricted
          rw [hpreview, Option.isSome_none, Bool.or_false]
          exact Bool.eq_false_iff.2 fun hsome => Bool.noConfusion (hrecorder hsome)
        · cases hs
          have htask : Task.Sound s (.serving token payload route) := ⟨⟨x, hx, hclaims⟩, hpreview, hrecorder⟩
          exact (h.put htask).open hx hclaims ⟨hexp, hpreview, hrecorder⟩
      · cases hs
        exact h
    · cases hs
      exact h
  | resume i reads =>
    obtain ⟨task, hi, rfl⟩ := Option.map_eq_some_iff.1 hs
    exact h.resume hi
  | fail i =>
    obtain ⟨task, -, rfl⟩ := Option.map_eq_some_iff.1 hs
    exact h.finish
  | handshake token account =>
    unfold step at hs
    dsimp only at hs
    split at hs
    · rename_i payload huser
      obtain ⟨x, hx, hclaims, hexp⟩ := user_eq_some huser
      split at hs
      · rename_i hok
        rw [Bool.and_eq_true, Option.isNone_iff_eq_none] at hok
        cases hs
        exact h.open hx hclaims ⟨hexp, hok.1⟩
      · cases hs
        exact h
    · cases hs
      exact h
  | preview token visit =>
    unfold step at hs
    dsimp only at hs
    split at hs
    · rename_i payload huser
      obtain ⟨x, hx, hclaims, hexp⟩ := user_eq_some huser
      split at hs
      · rename_i hok
        cases hs
        exact h.open hx hclaims ⟨hexp, forward_isOk hok⟩
      · cases hs
        exact h
    · cases hs
      exact h
  | write userId f =>
    cases hs
    exact h.users _
  | tick now =>
    unfold step at hs
    dsimp only at hs
    split at hs
    · rename_i hle
      cases hs
      exact h.grow ⟨fun _ _ hx => hx, List.Subset.refl _, List.Subset.refl _, hle⟩ (fun _ _ hx => .inl hx)
        (fun _ _ ht => .inl ht) fun _ ho => .inl ho
    · cases hs

end Runs

/-- However requests, sign-ins, changes of accounts and time interleave: a door opens only to a token that was signed
and is meant for it, whose user had proved to be themselves or was impersonated by an admin who had given the password
once more; and a token that was signed for a request was signed for one of a token with no restriction. -/
theorem doors_sound (configured : String → Bool) (bcryptVerify : String → String → Bool) (users : Table UserId User)
    (now : Nat) {es : List Event} {s : State}
    (h : run (step configured bcryptVerify) (start users now) es = some s) :
    (∀ o ∈ s.opened, ∃ x payload, s.issued[o.token]? = some x ∧ x.claims = .access payload ∧ x.iat ≤ o.time ∧
      Rooted s payload.sub x.iat ∧ o.door.Admits s x payload o.time) ∧
    ∀ (k : Nat) (x : Issued), s.issued[k]? = some x → ∀ token ∈ x.parent, ∃ y payload, s.issued[token]? = some y ∧
      y.claims = .access payload ∧ payload.recorder = none ∧ payload.preview = none := by
  have hs : Inv s := run_keeps (fun _ _ _ => inv_step) (inv_start users now) h
  refine ⟨fun o ho => ?_, fun k x hx token htoken => ?_⟩
  · obtain ⟨x, payload, hsound⟩ := hs.opened o ho
    have hrooted := (hs.issued o.token x hsound.issued).rooted
    rw [hsound.claims] at hrooted
    exact ⟨x, payload, hsound.issued, hsound.claims, hsound.past, hrooted, hsound.admits⟩
  · obtain ⟨payload, ⟨y, hy, hclaims⟩, hfree⟩ := (hs.issued k x hx).parent token htoken
    unfold restricted at hfree
    simp only [Bool.or_eq_false_iff, Option.isSome_eq_false_iff, Option.isNone_iff_eq_none] at hfree
    exact ⟨y, payload, hy, hclaims, hfree⟩

namespace Example

def root : User := ⟨"root@livetich.test", "Root", .orgAdmin, none, .active, true, "open sesame"⟩

def yusuf : User := ⟨"yusuf@noor.test", "Yusuf", .instructor, some "noor", .active, false, "alif"⟩

def users : Table UserId User := ⟨[("root", root), ("yusuf", yusuf)], by decide⟩

def account : Option AccountState := some ⟨.active, true⟩

def visit (port : Nat) : Policy.Visit :=
  ⟨"monday", port, account, ⟨some ⟨"monday", .live, ⟨"web", some "yusuf", some "noor", none⟩⟩, false, true⟩⟩

def reads : Reads := ⟨true, visit 3000⟩

/-- The admin signs in, gives the password once more and acts as a teacher. -/
def lends : List Event :=
  [.login root.email "open sesame", .request 0 none (.adminReauth "open sesame") account, .resume 0 reads, .tick 100,
    .request 0 (some 1) (.console (.impersonate "yusuf")) account, .resume 1 reads, .resume 1 reads, .resume 1 reads]

/-- The teacher's token signs one for a preview, which opens that preview and nothing else. -/
def previews : List Event :=
  [.request 2 none (.previewToken "monday" 3000) account, .resume 2 reads, .preview 3 (visit 3000),
    .preview 3 (visit 80), .handshake 3 account, .request 3 none .realtimeToken account]

/-- Six minutes later the password counts no longer for another impersonation, but it does for the overview. -/
def later : List Event :=
  [.tick 460, .request 0 (some 1) (.console (.impersonate "yusuf")) account, .resume 3 reads, .resume 3 reads,
    .request 0 (some 1) (.console .other) account, .resume 4 reads, .resume 4 reads]

def server (es : List Event) : Option State := run (step (· == root.email) (· == ·)) (start users 0) es

end Example

open Credentials.Example in
theorem doors_opened : ∃ s, server (lends ++ previews ++ later) = some s ∧
    s.opened.map (fun o => (o.door, o.token)) =
      [(.console 1800, 0), (.preview "monday" 3000, 3), (.api false, 2), (.console 300, 0), (.api false, 0)] ∧
    ∀ o ∈ s.opened, ∃ x payload, s.issued[o.token]? = some x ∧ x.claims = .access payload ∧
      Rooted s payload.sub x.iat := by
  have hrun : (server (lends ++ previews ++ later)).map (fun s => s.opened.map fun o => (o.door, o.token)) =
      some [(.console 1800, 0), (.preview "monday" 3000, 3), (.api false, 2), (.console 300, 0), (.api false, 0)] := by
    decide
  obtain ⟨s, hs, hopened⟩ := Option.map_eq_some_iff.1 hrun
  refine ⟨s, hs, hopened, fun o ho => ?_⟩
  obtain ⟨x, payload, hx, hclaims, -, hrooted, -⟩ := (doors_sound (· == root.email) (· == ·) users 0 hs).1 o ho
  exact ⟨x, payload, hx, hclaims, hrooted⟩

end Livetich.Auth.Credentials
