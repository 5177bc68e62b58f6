/-
What an account's password and its verified address are changed by: the reset link and the code that are mailed to it,
its own password, and the platform's operator. Calls wait for the database in between, and for bcrypt, which touches
nothing that calls share and is taken to be part of the wait before it.

Secrets as they are drawn and as they are mailed, links that have been used, and hashes that an account has had, are
noted beside.
-/
import Livetich.Auth.Model
import Livetich.Lib.Table
import Livetich.Lib.TransSys

namespace Livetich.Auth.Recovery

open TransSys Livetich.Lib

/-! ## Accounts -/

/-- A row of `User`, as far as these calls read or write it. -/
structure Row (Digest Hash : Type) where
  email : String
  status : UserStatus
  passwordHash : Hash
  resetTokenHash : Option Digest
  resetTokenExpiresAt : Nat
  emailVerified : Bool
  verifyOtpHash : Option Digest
  verifyOtpExpiresAt : Nat

/-- A link or a code. -/
inductive Kind
  | link | code
  deriving DecidableEq

/-- A secret drawn for an account, to be mailed to its address. -/
structure Secret where
  kind : Kind
  userId : UserId
  email : String
  text : String
  drawnAt : Nat
  deriving DecidableEq

/-- `30 * 60 * 1000` for a link, `10 * 60 * 1000` for a code. -/
def Kind.life : Kind → Nat
  | .link => 30 * 60 * 1000
  | .code => 10 * 60 * 1000

namespace Row

variable {Digest Hash : Type}

/-- What `requestPasswordReset` or `sendVerificationOtp` stores. -/
def keep (hashToken : String → Digest) (secret : Secret) (user : Row Digest Hash) : Row Digest Hash :=
  match secret.kind with
  | .link => { user with
      resetTokenHash := some (hashToken secret.text), resetTokenExpiresAt := secret.drawnAt + Kind.life .link }
  | .code => { user with
      verifyOtpHash := some (hashToken secret.text), verifyOtpExpiresAt := secret.drawnAt + Kind.life .code }

/-- What `resetPassword` writes: the link proves the address too. -/
def reset (passwordHash : Hash) (user : Row Digest Hash) : Row Digest Hash :=
  { user with passwordHash, resetTokenHash := none, emailVerified := true, verifyOtpHash := none }

def verify (user : Row Digest Hash) : Row Digest Hash := { user with emailVerified := true, verifyOtpHash := none }

/-- The digest kept of a secret, and its expiry. -/
def held (user : Row Digest Hash) : Kind → Option (Digest × Nat)
  | .link => user.resetTokenHash.map (·, user.resetTokenExpiresAt)
  | .code => user.verifyOtpHash.map (·, user.verifyOtpExpiresAt)

variable {hashToken : String → Digest} {secret : Secret} {user : Row Digest Hash} {d : Digest}

@[simp] theorem keep_email : (user.keep hashToken secret).email = user.email := by
  unfold keep
  split <;> rfl

@[simp] theorem keep_passwordHash : (user.keep hashToken secret).passwordHash = user.passwordHash := by
  unfold keep
  split <;> rfl

theorem held_link (h : user.resetTokenHash = some d) : user.held .link = some (d, user.resetTokenExpiresAt) := by
  simp [held, h]

theorem held_code (h : user.verifyOtpHash = some d) : user.held .code = some (d, user.verifyOtpExpiresAt) := by
  simp [held, h]

theorem resetTokenHash_of_held {expiresAt : Nat} (h : user.held .link = some (d, expiresAt)) :
    user.resetTokenHash = some d := by
  obtain ⟨digest, hdigest, hpair⟩ := Option.map_eq_some_iff.1 h
  exact hdigest.trans (congrArg some (Prod.mk.inj hpair).1)

end Row

/-! ## Calls -/

inductive Request
  | requestPasswordReset (email : String)
  | resetPassword (token newPassword : String)
  | changePassword (userId : UserId) (currentPassword newPassword : String)
  | sendVerificationOtp (userId : UserId)
  | verifyEmail (userId : UserId) (code : String)
  /-- Of the platform's operator. -/
  | verifyUserEmail (userId : UserId)
  deriving DecidableEq

/-- A call, by what it waits for: its read, or its one write. -/
inductive Call (Hash : Type)
  | read (r : Request)
  | store (secret : Secret)
  /-- `resetPassword` has found its token good at a time. -/
  | reset (userId : UserId) (token : String) (checkedAt : Nat) (passwordHash : Hash)
  /-- `changePassword` has found its password to be of a hash. -/
  | change (userId : UserId) (currentPassword : String) (kept passwordHash : Hash)
  | verify (userId : UserId) (code : String) (checkedAt : Nat)
  | verifyUser (userId : UserId)

structure State (Digest Hash : Type) where
  now : Nat
  users : Table UserId (Row Digest Hash)
  calls : Slots (Call Hash)
  drawn : List Secret
  mailed : List Secret
  used : List String
  hashes : List (UserId × Hash)

variable {Digest Hash : Type}

def init : State Digest Hash := ⟨0, .empty, fun _ => none, [], [], [], []⟩

inductive Event (Hash : Type)
  /-- `register` or `registerOrganization`. -/
  | create (userId : UserId) (email : String) (passwordHash : Hash)
  | start (i : Nat) (r : Request)
  /-- A call goes on, up to its next wait; `text` is what it draws, if it does, and `salt` is bcrypt's. -/
  | advance (i : Nat) (text : String) (salt : Nat)
  | tick (ms : Nat)
  /-- `setUserStatus`. -/
  | setStatus (userId : UserId) (status : UserStatus)

namespace State

variable (s : State Digest Hash)

/-- `prisma.user.update`. -/
def update (userId : UserId) (f : Row Digest Hash → Row Digest Hash) : State Digest Hash :=
  { s with users := s.users.modify userId f }

def put (i : Nat) (c : Option (Call Hash)) : State Digest Hash := { s with calls := s.calls.put i c }

/-- A secret is drawn; links are drawn anew each time. -/
def draw (i : Nat) (secret : Secret) : Option (State Digest Hash) :=
  if secret.kind = .link ∧ s.drawn.any (fun d => d.kind = .link && d.text = secret.text) = true then none
  else some { s.put i (some (.store secret)) with drawn := secret :: s.drawn }

end State

section

variable [DecidableEq Digest] (hashToken : String → Digest) (bcryptHash : String → Nat → Hash)
  (bcryptVerify : String → Hash → Bool)

/-- The row a token is of, where it is good. -/
def State.findToken (s : State Digest Hash) (token : String) : Option (UserId × Row Digest Hash) :=
  (s.users.entries.find? fun u => u.2.resetTokenHash = some (hashToken token)).filter fun u =>
    s.now ≤ u.2.resetTokenExpiresAt

/-- The read of a call is answered, and the call comes to its write or ends. -/
def State.read (s : State Digest Hash) (i : Nat) (text : String) (salt : Nat) : Request → Option (State Digest Hash)
  | .requestPasswordReset email => match s.users.entries.find? (·.2.email = email) with
    | none => some (s.put i none)
    | some (userId, user) =>
      if user.status = .disabled then some (s.put i none) else s.draw i ⟨.link, userId, user.email, text, s.now⟩
  | .resetPassword token newPassword => match s.findToken hashToken token with
    | none => some (s.put i none)
    | some (userId, _) => some (s.put i (some (.reset userId token s.now (bcryptHash newPassword salt))))
  | .changePassword userId currentPassword newPassword => match s.users.get userId with
    | none => some (s.put i none)
    | some user =>
      if bcryptVerify currentPassword user.passwordHash then
        some (s.put i (some (.change userId currentPassword user.passwordHash (bcryptHash newPassword salt))))
      else some (s.put i none)
  | .sendVerificationOtp userId => match s.users.get userId with
    | none => some (s.put i none)
    | some user =>
      if user.emailVerified then some (s.put i none) else s.draw i ⟨.code, userId, user.email, text, s.now⟩
  | .verifyEmail userId code => match s.users.get userId with
    | none => some (s.put i none)
    | some user =>
      if user.emailVerified then some (s.put i none)
      else if user.verifyOtpHash = some (hashToken code) ∧ s.now ≤ user.verifyOtpExpiresAt then
        some (s.put i (some (.verify userId code s.now)))
      else some (s.put i none)
  | .verifyUserEmail userId => match s.users.get userId with
    | none => some (s.put i none)
    | some _ => some (s.put i (some (.verifyUser userId)))

/-- The write of a call, and the mail that follows it. -/
def State.write (s : State Digest Hash) : Call Hash → State Digest Hash
  | .read _ => s
  | .store secret => { s.update secret.userId (·.keep hashToken secret) with mailed := secret :: s.mailed }
  | .reset userId token _ passwordHash => { s.update userId (·.reset passwordHash) with
      used := token :: s.used, hashes := (userId, passwordHash) :: s.hashes }
  | .change userId _ _ passwordHash => { s.update userId fun user => { user with passwordHash } with
      hashes := (userId, passwordHash) :: s.hashes }
  | .verify userId _ _ | .verifyUser userId => s.update userId Row.verify

def step (s : State Digest Hash) : Event Hash → Option (State Digest Hash)
  | .create userId email passwordHash =>
    if s.users.entries.any (fun u => u.1 = userId || u.2.email = email) then none
    else some { s with
      users := s.users.insert userId ⟨email, .active, passwordHash, none, 0, false, none, 0⟩,
      hashes := (userId, passwordHash) :: s.hashes }
  | .start i r => if (s.calls i).isSome then none else some (s.put i (some (.read r)))
  | .advance i text salt => match s.calls i with
    | none => none
    | some (.read r) => s.read hashToken bcryptHash bcryptVerify i text salt r
    | some c => some ((s.write hashToken c).put i none)
  | .tick ms => some { s with now := s.now + ms }
  | .setStatus userId status => some (s.update userId fun user => { user with status })

end

/-! ## What is known of secrets -/

section

variable {hashToken : String → Digest} {bcryptVerify : String → Hash → Bool} {s s' : State Digest Hash}

/-- A secret that was mailed to the address of an account, and was good at a time. -/
def Mailed (s : State Digest Hash) (kind : Kind) (userId : UserId) (text : String) (checkedAt : Nat) : Prop :=
  ∃ secret ∈ s.mailed, secret.kind = kind ∧ secret.userId = userId ∧ secret.text = text ∧
    secret.drawnAt ≤ checkedAt ∧ checkedAt ≤ secret.drawnAt + kind.life

variable (bcryptVerify) in
/-- What a call has made sure of before its write. -/
def Call.Proved (s : State Digest Hash) : Call Hash → Prop
  | .read _ | .verifyUser _ => True
  | .store secret => secret ∈ s.drawn
  | .reset userId token checkedAt _ => Mailed s .link userId token checkedAt
  | .change userId currentPassword kept _ => bcryptVerify currentPassword kept = true ∧ (userId, kept) ∈ s.hashes
  | .verify userId code checkedAt => Mailed s .code userId code checkedAt

variable (hashToken bcryptVerify) in
structure Inv (s : State Digest Hash) : Prop where
  time : ∀ secret ∈ s.drawn, secret.drawnAt ≤ s.now
  /-- Addresses do not change. -/
  owned : ∀ secret ∈ s.drawn, ∃ user, s.users.get secret.userId = some user ∧ user.email = secret.email
  unique : ∀ a ∈ s.drawn, ∀ b ∈ s.drawn, a.kind = .link → b.kind = .link → a.text = b.text → a = b
  mailed : ∀ secret ∈ s.mailed, secret ∈ s.drawn
  held : ∀ kind userId user digest expiresAt, s.users.get userId = some user →
    user.held kind = some (digest, expiresAt) → ∃ secret ∈ s.mailed, secret.kind = kind ∧ secret.userId = userId ∧
      hashToken secret.text = digest ∧ expiresAt = secret.drawnAt + kind.life
  kept : ∀ userId user, s.users.get userId = some user → (userId, user.passwordHash) ∈ s.hashes
  calls : ∀ i c, s.calls i = some c → c.Proved bcryptVerify s
  /-- A link that waits to be stored is in no mail yet. -/
  pending : ∀ i secret, s.calls i = some (.store secret) → secret.kind = .link → secret ∉ s.mailed ∧
    ∀ j, s.calls j = some (.store secret) → j = i
  used : ∀ token ∈ s.used, (∃ secret ∈ s.mailed, secret.kind = .link ∧ secret.text = token) ∧
    ∀ userId user, s.users.get userId = some user → user.resetTokenHash ≠ some (hashToken token)

/-! ## Every step keeps it -/

theorem Mailed.mono {kind : Kind} {userId : UserId} {text : String} {checkedAt : Nat}
    (h : Mailed s kind userId text checkedAt) (hsub : ∀ secret ∈ s.mailed, secret ∈ s'.mailed) :
    Mailed s' kind userId text checkedAt := by
  obtain ⟨secret, hmem, hrest⟩ := h
  exact ⟨secret, hsub secret hmem, hrest⟩

theorem Call.Proved.mono {c : Call Hash} (h : c.Proved bcryptVerify s) (hdrawn : ∀ secret ∈ s.drawn, secret ∈ s'.drawn)
    (hmailed : ∀ secret ∈ s.mailed, secret ∈ s'.mailed) (hhashes : ∀ x ∈ s.hashes, x ∈ s'.hashes) :
    c.Proved bcryptVerify s' := by
  cases c with
  | read r => trivial
  | store secret => exact hdrawn secret h
  | reset userId token checkedAt passwordHash => exact Mailed.mono h hmailed
  | change userId currentPassword kept passwordHash => exact ⟨h.1, hhashes _ h.2⟩
  | verify userId code checkedAt => exact Mailed.mono h hmailed
  | verifyUser userId => trivial

theorem Inv.put (h : Inv hashToken bcryptVerify s) {i : Nat} {c : Option (Call Hash)}
    (hc : ∀ c', c = some c' → c'.Proved bcryptVerify s ∧ ∀ secret, c' ≠ .store secret) :
    Inv hashToken bcryptVerify (s.put i c) := by
  have hcalls : ∀ {j c'}, (s.put i c).calls j = some c' → c = some c' ∨ s.calls j = some c' := by
    intro j c' hj
    rcases Slots.put_eq_some hj with ⟨-, hnew⟩ | ⟨-, hold⟩
    · exact .inl hnew
    · exact .inr hold
  have hstore : ∀ {j secret}, (s.put i c).calls j = some (.store secret) → s.calls j = some (.store secret) := by
    intro j secret hj
    rcases hcalls hj with hnew | hold
    · exact absurd rfl ((hc _ hnew).2 secret)
    · exact hold
  refine { h with calls := fun j c' hj => ?_, pending := fun j secret hj hkind => ?_ }
  · rcases hcalls hj with hnew | hold
    · exact (hc c' hnew).1
    · exact h.calls j c' hold
  · obtain ⟨hnot, hone⟩ := h.pending j secret (hstore hj) hkind
    exact ⟨hnot, fun k hk => hone k (hstore hk)⟩

/-- A secret is drawn for an account. -/
theorem Inv.draw (h : Inv hashToken bcryptVerify s) {i : Nat} {secret : Secret} (hnow : secret.drawnAt = s.now)
    (howned : ∃ user, s.users.get secret.userId = some user ∧ user.email = secret.email)
    (hs : s.draw i secret = some s') : Inv hashToken bcryptVerify s' := by
  unfold State.draw at hs
  split at hs
  · cases hs
  · rename_i hfresh
    cases hs
    have hnew : ∀ d ∈ s.drawn, secret.kind = .link → d.kind = .link → d.text ≠ secret.text := by
      intro d hd hkind hlink htext
      exact hfresh ⟨hkind, List.any_eq_true.2 ⟨d, hd, by simp [hlink, htext]⟩⟩
    have hsub : ∀ d ∈ s.drawn, d ∈ secret :: s.drawn := fun d hd => List.mem_cons_of_mem _ hd
    have hcalls : ∀ {j c}, (s.put i (some (.store secret))).calls j = some c →
        (j = i ∧ c = .store secret) ∨ (j ≠ i ∧ s.calls j = some c) := by
      intro j c hj
      rcases Slots.put_eq_some hj with ⟨rfl, hsame⟩ | ⟨hne, hold⟩
      · cases hsame
        exact .inl ⟨rfl, rfl⟩
      · exact .inr ⟨hne, hold⟩
    refine { h with
      time := fun d hd => ?_, owned := fun d hd => ?_, unique := fun a ha b hb hka hkb htext => ?_
      mailed := fun d hd => hsub d (h.mailed d hd), calls := fun j c hj => ?_, pending := fun j d hj hkind => ?_ }
    · rcases List.mem_cons.1 hd with rfl | hd
      · exact Nat.le_of_eq hnow
      · exact h.time d hd
    · rcases List.mem_cons.1 hd with rfl | hd
      · exact howned
      · exact h.owned d hd
    · rcases List.mem_cons.1 ha with heqa | hina
      · rcases List.mem_cons.1 hb with heqb | hinb
        · exact heqa.trans heqb.symm
        · subst heqa
          exact absurd htext.symm (hnew b hinb hka hkb)
      · rcases List.mem_cons.1 hb with heqb | hinb
        · subst heqb
          exact absurd htext (hnew a hina hkb hka)
        · exact h.unique a hina b hinb hka hkb htext
    · rcases hcalls hj with ⟨-, rfl⟩ | ⟨-, hold⟩
      · exact List.mem_cons_self
      · exact (h.calls j c hold).mono hsub (fun _ hd => hd) fun _ hx => hx
    · rcases hcalls hj with ⟨rfl, hsame⟩ | ⟨hne, hold⟩
      · cases hsame
        refine ⟨fun hmail => hnew secret (h.mailed secret hmail) hkind hkind rfl, fun k hk => ?_⟩
        rcases hcalls hk with ⟨rfl, -⟩ | ⟨-, hk⟩
        · rfl
        · exact absurd rfl (hnew secret (h.calls k _ hk) hkind hkind)
      · obtain ⟨hnot, hone⟩ := h.pending j d hold hkind
        refine ⟨hnot, fun k hk => ?_⟩
        rcases hcalls hk with ⟨-, hsame⟩ | ⟨-, hk⟩
        · cases hsame
          exact absurd rfl (hnew secret (h.calls j _ hold) hkind hkind)
        · exact hone k hk

/-- The accounts change, and keep no secret that they did not. -/
theorem Inv.rows (h : Inv hashToken bcryptVerify s) {users : Table UserId (Row Digest Hash)}
    {hashes : List (UserId × Hash)} (hhashes : ∀ x ∈ s.hashes, x ∈ hashes)
    (hstay : ∀ userId user, s.users.get userId = some user →
      ∃ user', users.get userId = some user' ∧ user'.email = user.email)
    (hold : ∀ userId user', users.get userId = some user' → (userId, user'.passwordHash) ∈ hashes ∧
      ∀ kind d, user'.held kind = some d → ∃ user, s.users.get userId = some user ∧ user.held kind = some d) :
    Inv hashToken bcryptVerify { s with users, hashes } := by
  refine { h with
    owned := fun secret hs => ?_, held := fun kind userId user' digest expiresAt hu hd => ?_
    kept := fun userId user' hu => (hold userId user' hu).1
    calls := fun i c hc => (h.calls i c hc).mono (fun _ hs => hs) (fun _ hs => hs) hhashes
    used := fun token ht => ⟨(h.used token ht).1, fun userId user' hu heq => ?_⟩ }
  · obtain ⟨user, hu, hemail⟩ := h.owned secret hs
    obtain ⟨user', hu', hsame⟩ := hstay _ _ hu
    exact ⟨user', hu', hsame.trans hemail⟩
  · obtain ⟨user, hu, hd⟩ := (hold userId user' hu).2 kind _ hd
    exact h.held kind userId user digest expiresAt hu hd
  · obtain ⟨user, hu, hd⟩ := (hold userId user' hu).2 .link _ (Row.held_link heq)
    exact (h.used token ht).2 userId user hu (Row.resetTokenHash_of_held hd)

/-- One account changes, in its password, its status or by losing secrets. -/
theorem Inv.update (h : Inv hashToken bcryptVerify s) {userId : UserId} {f : Row Digest Hash → Row Digest Hash}
    {hashes : List (UserId × Hash)} (hhashes : ∀ x ∈ s.hashes, x ∈ hashes)
    (hemail : ∀ user, (f user).email = user.email)
    (hheld : ∀ user kind d, (f user).held kind = some d → user.held kind = some d)
    (hhash : ∀ user, (f user).passwordHash = user.passwordHash ∨ (userId, (f user).passwordHash) ∈ hashes) :
    Inv hashToken bcryptVerify { s.update userId f with hashes } := by
  show Inv hashToken bcryptVerify { s with users := s.users.modify userId f, hashes }
  refine h.rows hhashes (fun j user hu => ?_) fun j user' hu' => ?_
  · rw [Table.get_modify]
    split
    · exact ⟨f user, by rw [hu]; rfl, hemail user⟩
    · exact ⟨user, hu, rfl⟩
  · rw [Table.get_modify] at hu'
    split at hu'
    · rename_i hj
      subst hj
      obtain ⟨user, hu, rfl⟩ := Option.map_eq_some_iff.1 hu'
      refine ⟨?_, fun kind d hd => ⟨user, hu, hheld user kind d hd⟩⟩
      rcases hhash user with hsame | hnew
      · rw [hsame]
        exact hhashes _ (h.kept j user hu)
      · exact hnew
    · exact ⟨hhashes _ (h.kept j user' hu'), fun kind d hd => ⟨user', hu', hd⟩⟩

theorem held_keep {secret : Secret} {user : Row Digest Hash} {kind : Kind} {d : Digest × Nat}
    (h : (user.keep hashToken secret).held kind = some d) :
    (kind = secret.kind ∧ d = (hashToken secret.text, secret.drawnAt + kind.life)) ∨
      (kind ≠ secret.kind ∧ user.held kind = some d) := by
  unfold Row.keep at h
  cases hk : secret.kind <;> rw [hk] at h <;> cases kind
  · cases h
    exact .inl ⟨rfl, rfl⟩
  · exact .inr ⟨Kind.noConfusion, h⟩
  · exact .inr ⟨Kind.noConfusion, h⟩
  · cases h
    exact .inl ⟨rfl, rfl⟩

/-- A secret is stored and mailed. -/
theorem Inv.store (hinj : Function.Injective hashToken) (h : Inv hashToken bcryptVerify s) {secret : Secret}
    (hdrawn : secret ∈ s.drawn)
    (hpending : secret.kind = .link → secret ∉ s.mailed ∧ ∀ j, s.calls j ≠ some (.store secret)) :
    Inv hashToken bcryptVerify (s.write hashToken (.store secret)) := by
  have hsub : ∀ d ∈ s.mailed, d ∈ secret :: s.mailed := fun d hd => List.mem_cons_of_mem _ hd
  have hget : ∀ {j user'}, (s.users.modify secret.userId (·.keep hashToken secret)).get j = some user' →
      ∃ user, s.users.get j = some user ∧ user'.email = user.email ∧ user'.passwordHash = user.passwordHash ∧
        ∀ kind d, user'.held kind = some d → user.held kind = some d ∨
          (j = secret.userId ∧ kind = secret.kind ∧ d = (hashToken secret.text, secret.drawnAt + kind.life)) := by
    intro j user' hu'
    rw [Table.get_modify] at hu'
    split at hu'
    · rename_i hj
      obtain ⟨user, hu, rfl⟩ := Option.map_eq_some_iff.1 hu'
      refine ⟨user, hu, Row.keep_email, Row.keep_passwordHash, fun kind d hd => ?_⟩
      rcases held_keep hd with ⟨hkind, hnew⟩ | ⟨-, hold⟩
      · exact .inr ⟨hj, hkind, hnew⟩
      · exact .inl hold
    · exact ⟨user', hu', rfl, rfl, fun kind d hd => .inl hd⟩
  refine { h with
    owned := fun d hd => ?_, mailed := fun d hd => ?_, held := fun kind j user' digest expiresAt hu' hd => ?_
    kept := fun j user' hu' => ?_, calls := fun i c hc => ?_, pending := fun i d hd hkind => ?_
    used := fun token ht => ⟨?_, fun j user' hu' heq => ?_⟩ }
  · obtain ⟨user, hu, hemail⟩ := h.owned d hd
    show ∃ user', (s.users.modify secret.userId (·.keep hashToken secret)).get d.userId = some user' ∧ _
    rw [Table.get_modify, hu]
    split
    · exact ⟨_, rfl, Row.keep_email.trans hemail⟩
    · exact ⟨user, rfl, hemail⟩
  · rcases List.mem_cons.1 hd with rfl | hd
    · exact hdrawn
    · exact h.mailed d hd
  · obtain ⟨user, hu, -, -, hheld⟩ := hget hu'
    rcases hheld kind _ hd with hold | ⟨rfl, rfl, hnew⟩
    · obtain ⟨d, hd, hrest⟩ := h.held kind j user digest expiresAt hu hold
      exact ⟨d, hsub d hd, hrest⟩
    · cases hnew
      exact ⟨secret, List.mem_cons_self, rfl, rfl, rfl, rfl⟩
  · obtain ⟨user, hu, -, hhash, -⟩ := hget hu'
    rw [hhash]
    exact h.kept j user hu
  · exact (h.calls i c hc).mono (fun _ hd => hd) hsub fun _ hx => hx
  · obtain ⟨hnot, hone⟩ := h.pending i d hd hkind
    refine ⟨fun hmem => ?_, hone⟩
    rcases List.mem_cons.1 hmem with rfl | hmem
    · exact (hpending hkind).2 i hd
    · exact hnot hmem
  · obtain ⟨d, hd, hrest⟩ := (h.used token ht).1
    exact ⟨d, hsub d hd, hrest⟩
  · obtain ⟨user, hu, -, -, hheld⟩ := hget hu'
    rcases hheld .link _ (Row.held_link heq) with hold | ⟨-, hkind, hnew⟩
    · exact (h.used token ht).2 j user hu (Row.resetTokenHash_of_held hold)
    · -- a link that is used has been mailed, and this one had not
      have htext : token = secret.text := hinj (Prod.mk.inj hnew).1
      obtain ⟨d, hd, hdkind, hdtext⟩ := (h.used token ht).1
      have hsame := h.unique d (h.mailed d hd) secret hdrawn hdkind hkind.symm (hdtext.trans htext)
      rw [hsame] at hd
      exact (hpending hkind.symm).1 hd

/-- A link is used up. -/
theorem Inv.reset (hinj : Function.Injective hashToken) (h : Inv hashToken bcryptVerify s) {userId : UserId}
    {token : String} {checkedAt : Nat} {passwordHash : Hash} (hlink : Mailed s .link userId token checkedAt) :
    Inv hashToken bcryptVerify (s.write hashToken (.reset userId token checkedAt passwordHash)) := by
  have hrows : Inv hashToken bcryptVerify
      { s.update userId (·.reset passwordHash) with hashes := (userId, passwordHash) :: s.hashes } := by
    refine h.update (fun _ hx => List.mem_cons_of_mem _ hx) (fun _ => rfl) (fun user kind d hd => ?_)
      fun _ => .inr List.mem_cons_self
    cases kind <;> cases hd
  obtain ⟨secret, hmem, hkind, huser, htext, -⟩ := hlink
  refine { hrows with used := fun t ht => ?_ }
  rcases List.mem_cons.1 ht with rfl | ht
  · refine ⟨⟨secret, hmem, hkind, htext⟩, fun j user' hu' heq => ?_⟩
    have hget : (s.users.modify userId (·.reset passwordHash)).get j = some user' := hu'
    rw [Table.get_modify] at hget
    split at hget
    · obtain ⟨user, -, rfl⟩ := Option.map_eq_some_iff.1 hget
      cases heq
    · rename_i hj
      -- another account's link is another link
      obtain ⟨d, hd, hdkind, hduser, hdigest, -⟩ := h.held .link j user' _ _ hget (Row.held_link heq)
      have hsame := h.unique d (h.mailed d hd) secret (h.mailed secret hmem) hdkind hkind
        ((hinj hdigest).trans htext.symm)
      exact hj (by rw [← hduser, hsame, huser])
  · exact hrows.used t ht

/-- What a secret is good for, it was mailed for. -/
theorem Inv.mailedOf (hinj : Function.Injective hashToken) (h : Inv hashToken bcryptVerify s) {kind : Kind}
    {userId : UserId} {user : Row Digest Hash} {text : String} {expiresAt : Nat} (hu : s.users.get userId = some user)
    (hheld : user.held kind = some (hashToken text, expiresAt)) (hnow : s.now ≤ expiresAt) :
    Mailed s kind userId text s.now := by
  obtain ⟨secret, hmem, hkind, huser, hdigest, hexpires⟩ := h.held kind userId user _ _ hu hheld
  refine ⟨secret, hmem, hkind, huser, hinj hdigest, h.time secret (h.mailed secret hmem), ?_⟩
  rw [← hexpires]
  exact hnow

theorem Inv.write (hinj : Function.Injective hashToken) (h : Inv hashToken bcryptVerify s) {i : Nat} {c : Call Hash}
    (hc : s.calls i = some c) : Inv hashToken bcryptVerify ((s.write hashToken c).put i none) := by
  have hend : Inv hashToken bcryptVerify (s.put i none) := h.put fun c hc => by cases hc
  have hput : (s.write hashToken c).put i none = (s.put i none).write hashToken c := by
    cases c <;> rfl
  have hproved : c.Proved bcryptVerify (s.put i none) :=
    (h.calls i c hc).mono (fun _ hd => hd) (fun _ hd => hd) fun _ hx => hx
  have hverify : ∀ userId, Inv hashToken bcryptVerify ((s.put i none).update userId Row.verify) := fun userId => by
    refine hend.update (fun _ hx => hx) (fun _ => rfl) (fun user kind d hd => ?_) fun _ => .inl rfl
    cases kind
    · exact hd
    · cases hd
  rw [hput]
  cases c with
  | read r => exact hend
  | store secret =>
    refine hend.store hinj hproved fun hkind => ?_
    obtain ⟨hnot, hone⟩ := h.pending i secret hc hkind
    refine ⟨hnot, fun j hj => ?_⟩
    rcases Slots.put_eq_some hj with ⟨-, hnone⟩ | ⟨hne, hold⟩
    · cases hnone
    · exact hne (hone j hold)
  | reset userId token checkedAt passwordHash => exact hend.reset hinj hproved
  | change userId currentPassword kept passwordHash =>
    exact hend.update (fun _ hx => List.mem_cons_of_mem _ hx) (fun _ => rfl)
      (fun _ kind d hd => by cases kind <;> exact hd) fun _ => .inr List.mem_cons_self
  | verify userId code checkedAt => exact hverify userId
  | verifyUser userId => exact hverify userId

theorem Inv.init : Inv hashToken bcryptVerify (init : State Digest Hash) where
  time _ hd := nomatch hd
  owned _ hd := nomatch hd
  unique _ ha := nomatch ha
  mailed _ hd := nomatch hd
  held _ _ _ _ _ hu := nomatch hu
  kept _ _ hu := nomatch hu
  calls _ _ hc := nomatch hc
  pending _ _ hc := nomatch hc
  used _ ht := nomatch ht

theorem draw_keeps {i : Nat} {secret : Secret} (h : s.draw i secret = some s') :
    s'.users = s.users ∧ s'.used = s.used := by
  unfold State.draw at h
  split at h
  · cases h
  · cases h
    exact ⟨rfl, rfl⟩

/-- Another account's write, or one that is not about the password and the address. -/
theorem get_update {userId j : UserId} {f : Row Digest Hash → Row Digest Hash} {user user' : Row Digest Hash}
    (hu : s.users.get j = some user) (hu' : (s.users.modify userId f).get j = some user') :
    user' = user ∨ (j = userId ∧ user' = f user) := by
  rw [Table.get_modify, hu] at hu'
  split at hu'
  · rename_i hj
    cases hu'
    exact .inr ⟨hj, rfl⟩
  · cases hu'
    exact .inl rfl

/-- What was mailed to an account went to its address. -/
theorem Inv.toAddress (h : Inv hashToken bcryptVerify s) {secret : Secret} (hm : secret ∈ s.mailed)
    {user : Row Digest Hash} (hu : s.users.get secret.userId = some user) : secret.email = user.email := by
  obtain ⟨user', hu', hemail⟩ := h.owned secret (h.mailed secret hm)
  rw [hu] at hu'
  cases hu'
  exact hemail.symm

variable (bcryptVerify) in
/-- A call that is about to change the password of an account has shown a link that was mailed for it, or a password
of the account. -/
inductive GivesPassword (s : State Digest Hash) (userId : UserId) (passwordHash : Hash) : Call Hash → Prop
  | link (token : String) (checkedAt : Nat) : Mailed s .link userId token checkedAt →
    GivesPassword s userId passwordHash (.reset userId token checkedAt passwordHash)
  | password (currentPassword : String) (kept : Hash) : bcryptVerify currentPassword kept = true →
    (userId, kept) ∈ s.hashes → GivesPassword s userId passwordHash (.change userId currentPassword kept passwordHash)

/-- One that is about to mark an address verified has shown what was mailed for it, or is the operator's. -/
inductive GivesAddress (s : State Digest Hash) (userId : UserId) : Call Hash → Prop
  | link (token : String) (checkedAt : Nat) (passwordHash : Hash) : Mailed s .link userId token checkedAt →
    GivesAddress s userId (.reset userId token checkedAt passwordHash)
  | code (code : String) (checkedAt : Nat) : Mailed s .code userId code checkedAt →
    GivesAddress s userId (.verify userId code checkedAt)
  | operator : GivesAddress s userId (.verifyUser userId)

variable (bcryptVerify) in
/-- What a call changes of an account, it has the right to. -/
def Rightful (s : State Digest Hash) (userId : UserId) (user user' : Row Digest Hash) (c : Call Hash) : Prop :=
  (user'.passwordHash ≠ user.passwordHash → GivesPassword bcryptVerify s userId user'.passwordHash c) ∧
    (user.emailVerified = false → user'.emailVerified = true → GivesAddress s userId c)

theorem Inv.rightful (h : Inv hashToken bcryptVerify s) {i : Nat} {c : Call Hash} (hc : s.calls i = some c)
    {userId : UserId} {user user' : Row Digest Hash} (hu : s.users.get userId = some user)
    (hu' : (s.write hashToken c).users.get userId = some user') : Rightful bcryptVerify s userId user user' c := by
  have hproved := h.calls i c hc
  have hsame : ∀ {x : Row Digest Hash}, x.passwordHash = user.passwordHash → x.emailVerified = user.emailVerified →
      Rightful bcryptVerify s userId user x c := by
    intro x hhash hverified
    refine ⟨fun hne => absurd hhash hne, fun hfalse htrue => ?_⟩
    rw [hverified, hfalse] at htrue
    cases htrue
  cases c with
  | read r =>
    have hget : s.users.get userId = some user' := hu'
    rw [hu] at hget
    cases hget
    exact hsame rfl rfl
  | store secret =>
    rcases get_update hu hu' with rfl | ⟨-, rfl⟩
    · exact hsame rfl rfl
    · refine hsame Row.keep_passwordHash ?_
      unfold Row.keep
      split <;> rfl
  | reset owner token checkedAt passwordHash =>
    rcases get_update hu hu' with rfl | ⟨rfl, rfl⟩
    · exact hsame rfl rfl
    · exact ⟨fun _ => .link token checkedAt hproved, fun _ _ => .link token checkedAt passwordHash hproved⟩
  | change owner currentPassword kept passwordHash =>
    rcases get_update hu hu' with rfl | ⟨rfl, rfl⟩
    · exact hsame rfl rfl
    · refine ⟨fun _ => .password currentPassword kept hproved.1 hproved.2, fun hfalse htrue => ?_⟩
      rw [show user.emailVerified = true from htrue] at hfalse
      cases hfalse
  | verify owner code checkedAt =>
    rcases get_update hu hu' with rfl | ⟨rfl, rfl⟩
    · exact hsame rfl rfl
    · exact ⟨fun hne => absurd rfl hne, fun _ _ => .code code checkedAt hproved⟩
  | verifyUser owner =>
    rcases get_update hu hu' with rfl | ⟨rfl, rfl⟩
    · exact hsame rfl rfl
    · exact ⟨fun hne => absurd rfl hne, fun _ _ => .operator⟩

theorem Inv.tick (h : Inv hashToken bcryptVerify s) (ms : Nat) :
    Inv hashToken bcryptVerify { s with now := s.now + ms } :=
  { h with
    time := fun d hd => Nat.le_add_right_of_le (h.time d hd)
    calls := fun i c hc => (h.calls i c hc).mono (fun _ hd => hd) (fun _ hd => hd) fun _ hx => hx }

end

section

variable [DecidableEq Digest] {hashToken : String → Digest} {bcryptHash : String → Nat → Hash}
  {bcryptVerify : String → Hash → Bool} {s s' : State Digest Hash}

theorem findToken_eq {token : String} {userId : UserId} {user : Row Digest Hash}
    (h : s.findToken hashToken token = some (userId, user)) :
    s.users.get userId = some user ∧ user.resetTokenHash = some (hashToken token) ∧
      s.now ≤ user.resetTokenExpiresAt := by
  obtain ⟨hfind, hnow⟩ := Option.filter_eq_some_iff.1 h
  refine ⟨Table.get_of_mem (List.mem_of_find?_eq_some hfind), ?_, by simpa using hnow⟩
  simpa using List.find?_some hfind

/-- The read of a call changes no account. -/
theorem Inv.read (hinj : Function.Injective hashToken) (h : Inv hashToken bcryptVerify s) {i : Nat} {text : String}
    {salt : Nat} {r : Request} (hs : s.read hashToken bcryptHash bcryptVerify i text salt r = some s') :
    Inv hashToken bcryptVerify s' := by
  have hend : Inv hashToken bcryptVerify (s.put i none) := h.put fun c hc => by cases hc
  have hgoes : ∀ {c : Call Hash}, c.Proved bcryptVerify s → (∀ secret, c ≠ .store secret) →
      Inv hashToken bcryptVerify (s.put i (some c)) := by
    intro c hc hstore
    exact h.put fun c' hc' => by cases hc'; exact ⟨hc, hstore⟩
  cases r with
  | requestPasswordReset email =>
    unfold State.read at hs
    dsimp only at hs
    split at hs
    · cases hs
      exact hend
    · rename_i userId user hfind
      split at hs
      · cases hs
        exact hend
      · exact h.draw rfl ⟨user, Table.get_of_mem (List.mem_of_find?_eq_some hfind), rfl⟩ hs
  | resetPassword token newPassword =>
    unfold State.read at hs
    dsimp only at hs
    split at hs
    · cases hs
      exact hend
    · rename_i userId user hfind
      cases hs
      obtain ⟨hu, hdigest, hnow⟩ := findToken_eq hfind
      exact hgoes (h.mailedOf hinj hu (Row.held_link hdigest) hnow) (by simp)
  | changePassword userId currentPassword newPassword =>
    unfold State.read at hs
    dsimp only at hs
    split at hs
    · cases hs
      exact hend
    · rename_i user hu
      split at hs
      · rename_i hverify
        cases hs
        exact hgoes ⟨hverify, h.kept userId user hu⟩ (by simp)
      · cases hs
        exact hend
  | sendVerificationOtp userId =>
    unfold State.read at hs
    dsimp only at hs
    split at hs
    · cases hs
      exact hend
    · rename_i user hu
      split at hs
      · cases hs
        exact hend
      · exact h.draw rfl ⟨user, hu, rfl⟩ hs
  | verifyEmail userId code =>
    unfold State.read at hs
    dsimp only at hs
    split at hs
    · cases hs
      exact hend
    · rename_i user hu
      split at hs
      · cases hs
        exact hend
      · split at hs
        · rename_i hgood
          cases hs
          exact hgoes (h.mailedOf hinj hu (Row.held_code hgood.1) hgood.2) (by simp)
        · cases hs
          exact hend
  | verifyUserEmail userId =>
    unfold State.read at hs
    dsimp only at hs
    split at hs
    · cases hs
      exact hend
    · cases hs
      exact hgoes trivial (by simp)

theorem Inv.step (hinj : Function.Injective hashToken) (h : Inv hashToken bcryptVerify s) {e : Event Hash}
    (hs : Recovery.step hashToken bcryptHash bcryptVerify s e = some s') : Inv hashToken bcryptVerify s' := by
  cases e with
  | create userId email passwordHash =>
    have hs' : (if _ then none else some _) = some s' := hs
    split at hs'
    · cases hs'
    · rename_i hnew
      cases hs'
      have hnone : s.users.get userId = none := by
        by_contra hsome
        obtain ⟨user, hu⟩ := Option.ne_none_iff_exists'.1 hsome
        exact hnew (List.any_eq_true.2 ⟨(userId, user), Table.mem_of_get hu, by simp⟩)
      refine h.rows (fun _ hx => List.mem_cons_of_mem _ hx) (fun j user hu => ?_) fun j user' hu' => ?_
      · exact ⟨user, Table.get_insert_of_some hu _ _, rfl⟩
      · rw [Table.get_insert hnone] at hu'
        split at hu'
        · rename_i hj
          cases hu'
          exact ⟨by rw [hj]; exact List.mem_cons_self, fun kind d hd => by cases kind <;> cases hd⟩
        · exact ⟨List.mem_cons_of_mem _ (h.kept j user' hu'), fun kind d hd => ⟨user', hu', hd⟩⟩
  | start i r =>
    have hs' : (if _ then none else some _) = some s' := hs
    split at hs'
    · cases hs'
    · cases hs'
      exact h.put fun c hc => by cases hc; exact ⟨trivial, by simp⟩
  | advance i text salt =>
    have hs' : (match s.calls i with | none => none | some (.read r) => _ | some c => _) = some s' := hs
    split at hs'
    · cases hs'
    · exact h.read hinj hs'
    · rename_i c _ hc
      cases hs'
      exact h.write hinj hc
  | tick ms =>
    cases hs
    exact h.tick ms
  | setStatus userId status =>
    cases hs
    exact h.update (f := fun user => { user with status }) (fun _ hx => hx) (fun _ => rfl)
      (fun _ kind d hd => by cases kind <;> exact hd) fun _ => .inl rfl

theorem inv_of_run (hinj : Function.Injective hashToken) {es : List (Event Hash)}
    (h : run (Recovery.step hashToken bcryptHash bcryptVerify) init es = some s) : Inv hashToken bcryptVerify s :=
  run_keeps (I := Inv hashToken bcryptVerify) (fun _ _ _ hi hs => hi.step hinj hs) .init h

/-! ## What changes are made by -/

theorem read_keeps {i : Nat} {text : String} {salt : Nat} {r : Request}
    (hs : s.read hashToken bcryptHash bcryptVerify i text salt r = some s') :
    s'.users = s.users ∧ s'.used = s.used := by
  unfold State.read at hs
  cases r <;> dsimp only at hs <;> repeat' split at hs
  all_goals first | exact draw_keeps hs | (cases hs; exact ⟨rfl, rfl⟩)

variable (hashToken) in
/-- The accounts stay, one comes, one is disabled or enabled, or a call makes its write. -/
inductive Did (s : State Digest Hash) : Event Hash → State Digest Hash → Prop
  | still (e : Event Hash) (s' : State Digest Hash) : s'.users = s.users → s'.used = s.used → Did s e s'
  | created (userId : UserId) (email : String) (passwordHash : Hash) (s' : State Digest Hash) (user : Row Digest Hash) :
    s'.users = s.users.insert userId user → s'.used = s.used → Did s (.create userId email passwordHash) s'
  | status (userId : UserId) (status : UserStatus) :
    Did s (.setStatus userId status) (s.update userId fun user => { user with status })
  | written (i : Nat) (text : String) (salt : Nat) (c : Call Hash) : s.calls i = some c →
    Did s (.advance i text salt) ((s.write hashToken c).put i none)

theorem did {e : Event Hash} (hs : Recovery.step hashToken bcryptHash bcryptVerify s e = some s') :
    Did hashToken s e s' := by
  cases e with
  | create userId email passwordHash =>
    have hs' : (if _ then none else some _) = some s' := hs
    split at hs'
    · cases hs'
    · cases hs'
      exact .created userId email passwordHash _ _ rfl rfl
  | start i r =>
    have hs' : (if _ then none else some _) = some s' := hs
    split at hs'
    · cases hs'
    · cases hs'
      exact .still _ _ rfl rfl
  | advance i text salt =>
    have hs' : (match s.calls i with | none => none | some (.read r) => _ | some c => _) = some s' := hs
    split at hs'
    · cases hs'
    · obtain ⟨husers, hused⟩ := read_keeps hs'
      exact .still _ _ husers hused
    · rename_i c _ hc
      cases hs'
      exact .written i text salt c hc
  | tick ms =>
    cases hs
    exact .still _ _ rfl rfl
  | setStatus userId status =>
    cases hs
    exact .status userId status

theorem used_step {e : Event Hash} (hs : Recovery.step hashToken bcryptHash bcryptVerify s e = some s') {token : String}
    (ht : token ∈ s.used) : token ∈ s'.used := by
  cases did hs with
  | still e s' _ hused => exact hused ▸ ht
  | created userId email passwordHash s' user _ hused => exact hused ▸ ht
  | status userId status => exact ht
  | written i text salt c _ =>
    cases c with
    | reset userId token checkedAt passwordHash => exact List.mem_cons_of_mem _ ht
    | _ => exact ht

variable (hashToken bcryptHash bcryptVerify) in
/-- In any order of calls: whatever changes the password of an account has shown a link that had been mailed to the
account's address, and was at most half an hour old, or a password that had been the account's; and whatever marks the
address verified has shown such a link, or a code that had been mailed there and was at most ten minutes old, or is the
operator's. -/
theorem changes_rightful (hinj : Function.Injective hashToken) (es : List (Event Hash)) (s : State Digest Hash)
    (h : run (Recovery.step hashToken bcryptHash bcryptVerify) init es = some s) (e : Event Hash)
    (s' : State Digest Hash) (hs : Recovery.step hashToken bcryptHash bcryptVerify s e = some s') (userId : UserId)
    (user user' : Row Digest Hash) (hu : s.users.get userId = some user) (hu' : s'.users.get userId = some user')
    (hchange : user'.passwordHash ≠ user.passwordHash ∨ user.emailVerified = false ∧ user'.emailVerified = true) :
    (∃ i text salt c, e = .advance i text salt ∧ s.calls i = some c ∧ Rightful bcryptVerify s userId user user' c) ∧
      ∀ secret ∈ s.mailed, secret.userId = userId → secret.email = user.email := by
  have hinv := inv_of_run hinj h
  refine ⟨?_, fun secret hm huser => hinv.toAddress hm (huser ▸ hu)⟩
  have hother : s'.users.get userId = s.users.get userId → False := by
    intro heq
    rw [heq, hu] at hu'
    cases hu'
    rcases hchange with hne | ⟨hfalse, htrue⟩
    · exact hne rfl
    · rw [hfalse] at htrue
      cases htrue
  cases did hs with
  | still e s' husers _ => exact (hother (by rw [husers])).elim
  | created owner email passwordHash s' row husers _ =>
    exact (hother (by rw [husers, Table.get_insert_of_some hu, hu])).elim
  | status owner status =>
    rcases get_update hu hu' with rfl | ⟨-, rfl⟩
    · exact (hother (hu'.trans hu.symm)).elim
    · rcases hchange with hne | ⟨hfalse, htrue⟩
      · exact absurd rfl hne
      · rw [show user.emailVerified = true from htrue] at hfalse
        cases hfalse
  | written i text salt c hc => exact ⟨i, text, salt, c, rfl, hc, hinv.rightful hc hu hu'⟩

variable (hashToken bcryptHash bcryptVerify) in
/-- Once a password has been set by a link, the link is found good no more, whatever happens then. -/
theorem link_good_once (hinj : Function.Injective hashToken) (es₁ es₂ : List (Event Hash)) (s s₁ s₂ : State Digest Hash)
    (h₁ : run (Recovery.step hashToken bcryptHash bcryptVerify) init es₁ = some s) (i : Nat) (userId : UserId)
    (token text : String) (checkedAt salt : Nat) (passwordHash : Hash)
    (hi : s.calls i = some (.reset userId token checkedAt passwordHash))
    (hw : Recovery.step hashToken bcryptHash bcryptVerify s (.advance i text salt) = some s₁)
    (h₂ : run (Recovery.step hashToken bcryptHash bcryptVerify) s₁ es₂ = some s₂) :
    s₂.findToken hashToken token = none := by
  have hused : token ∈ s₁.used := by
    have hw' : (match s.calls i with | none => none | some (.read r) => _ | some c => _) = some s₁ := hw
    rw [hi] at hw'
    cases hw'
    exact List.mem_cons_self
  have hinv : Inv hashToken bcryptVerify s₂ ∧ token ∈ s₂.used := by
    refine run_keeps (I := fun s => Inv hashToken bcryptVerify s ∧ token ∈ s.used) (fun t e t' ht hs => ?_) ?_ h₂
    · exact ⟨ht.1.step hinj hs, used_step hs ht.2⟩
    · exact ⟨(inv_of_run hinj h₁).step hinj hw, hused⟩
  cases hfind : s₂.findToken hashToken token with
  | none => rfl
  | some u =>
    obtain ⟨hu, hdigest, -⟩ := findToken_eq hfind
    exact absurd hdigest ((hinv.1.used token hinv.2).2 u.1 u.2 hu)

end

namespace Example

/-- Digests are the secrets themselves, and hashes are passwords with their salts. -/
def bcryptHash (password : String) (salt : Nat) : String × Nat := (password, salt)

def bcryptVerify (password : String) (hash : String × Nat) : Bool := hash.1 == password

abbrev next : State String (String × Nat) → Event (String × Nat) → Option (State String (String × Nat)) :=
  step id bcryptHash bcryptVerify

/-- A link is asked for, and shown to two calls, of which one finds it good. -/
def lost : List (Event (String × Nat)) :=
  [.create "maryam" "maryam@noor.org" ("sabr", 1), .start 1 (.requestPasswordReset "maryam@noor.org"),
    .advance 1 "k3y" 0, .advance 1 "" 0, .tick 60000, .start 2 (.resetPassword "k3y" "shukr"), .advance 2 "" 2,
    .start 3 (.resetPassword "k3y" "other")]

/-- Another link is asked for. -/
def again : List (Event (String × Nat)) :=
  [.tick 1, .start 4 (.requestPasswordReset "maryam@noor.org"), .advance 4 "n3w" 0]

end Example

open Example in
theorem link_sets_password : ∃ s s' user user', run next init lost = some s ∧ next s (.advance 2 "" 0) = some s' ∧
    s.users.get "maryam" = some user ∧ s'.users.get "maryam" = some user' ∧ user'.passwordHash = ("shukr", 2) ∧
    ∃ i text salt c, (.advance 2 "" 0 : Event (String × Nat)) = .advance i text salt ∧ s.calls i = some c ∧
      Rightful bcryptVerify s "maryam" user user' c := by
  refine ⟨_, _, _, _, rfl, rfl, rfl, rfl, rfl, ?_⟩
  exact (changes_rightful id bcryptHash bcryptVerify Function.injective_id lost _ rfl (.advance 2 "" 0) _ rfl
    "maryam" _ _ rfl rfl (.inl (by decide))).1

open Example in
theorem link_found_used : ∃ s s₁ s₂, run next init lost = some s ∧ next s (.advance 2 "" 0) = some s₁ ∧
    run next s₁ again = some s₂ ∧ s₂.findToken id "k3y" = none := by
  refine ⟨_, _, _, rfl, rfl, rfl, ?_⟩
  exact link_good_once id bcryptHash bcryptVerify Function.injective_id lost again _ _ _ rfl 2 "maryam" "k3y" "" 60000 0
    ("shukr", 2) rfl rfl rfl

end Livetich.Auth.Recovery
