/-
Spending an invite: the transactions of `AuthService.register` and `joinWorkspace`, statement by
statement. The limit is tested on a plain read of a snapshot; the increment comes after other writes,
works on the last committed value, and keeps the row locked until its transaction is over.
-/
import Livetich.Auth.Model
import Livetich.Lib.Checked
import Livetich.Lib.TransSys

namespace Livetich.Auth.Invites

open TransSys Livetich.Lib

structure Invite where
  organizationId : OrganizationId
  role : Role
  courseId : Option CourseId
  maxUses : Option Nat
  uses : Nat
  expiresAt : Option Nat
  revokedAt : Option Nat
  deriving DecidableEq

/-- `invite.maxUses !== null && invite.uses >= invite.maxUses`. -/
def Invite.usedUp (invite : Invite) : Bool := invite.maxUses.any fun m => m ≤ invite.uses

def assertInviteUsable (invite : Option Invite) (now : Nat) : Result Invite := do
  let invite ← orThrow (invite.filter fun i => i.revokedAt.isNone) (.badRequest "This invite link is not valid")
  ensure (invite.role ≠ .orgAdmin) (.badRequest "This invite link is not valid")
  ensure (invite.expiresAt.all (now ≤ ·) = true) (.badRequest "This invite link has expired")
  ensure (invite.usedUp = false) (.badRequest "This invite link has been used up")
  return invite

/-! ## Transactions -/

/-- Whose transaction: of `register`, which creates the user, or of `joinWorkspace`. -/
inductive Caller
  | registers (created : UserId)
  | joins (userId : UserId)
  deriving DecidableEq

def Caller.userId : Caller → UserId
  | .registers created => created
  | .joins userId => userId

/-- The statement a transaction has reached, with the invite it has read. -/
inductive Stage
  | findingInvite
  | creatingUser (invite : Invite)
  | findingMembership (invite : Invite)
  | creatingMembership (invite : Invite)
  | findingEnrollment (invite : Invite)
  | creatingEnrollment (invite : Invite)
  | updatingCourse (invite : Invite)
  | incrementing (invite : Invite)
  | committing
  deriving DecidableEq

structure Tx where
  caller : Caller
  stage : Stage
  /-- A membership or an enrolment has been created in it. -/
  granted : Bool
  deriving DecidableEq

/-- What a statement brings back: the uses in the snapshot, the role of a membership that is there,
whether there is an enrolment, and whether a write was accepted. -/
structure Reply where
  seen : Nat
  membership : Option Role
  enrolled : Bool
  accepted : Bool
  deriving DecidableEq

structure State where
  /-- The invite as it was last committed. -/
  invite : Invite
  /-- The numbers of uses that have been committed so far. -/
  versions : List Nat
  /-- The transaction that has incremented the row and is not over. -/
  holder : Option Nat
  txs : Pool Tx
  now : Nat
  /-- Who was granted a membership or an enrolment through the invite. -/
  grantedTo : List UserId

inductive Event
  | begin (i : Nat) (caller : Caller)
  | resume (i : Nat) (reply : Reply)
  /-- A deadlock, a timeout or a lost connection. -/
  | abort (i : Nat)
  | revoke
  | tick (ms : Nat)
  deriving DecidableEq

/-- What a transaction of `joinWorkspace` still does after the invite's course. -/
def spendIfGranted (tx : Tx) (invite : Invite) : Tx :=
  { tx with stage := if tx.granted then .incrementing invite else .committing }

/-- What a transaction does about the invite's course, for someone of this standing. -/
def courseStage (tx : Tx) (invite : Invite) (role : Role) : Option Stage :=
  match invite.courseId, role with
  | some _, .student =>
    match tx.caller with
    | .registers _ => some (.creatingEnrollment invite)
    | .joins _ => some (.findingEnrollment invite)
  | some _, .instructor => some (.updatingCourse invite)
  | _, _ => none

/-- What follows the membership in `joinWorkspace`. -/
def afterMembership (tx : Tx) (invite : Invite) (role : Role) : Tx :=
  match courseStage tx invite role with
  | some stage => { tx with stage := stage }
  | none => spendIfGranted tx invite

/-- What follows the work on the course. -/
def afterCourse (tx : Tx) (invite : Invite) : Tx :=
  match tx.caller with
  | .registers _ => { tx with stage := .committing }
  | .joins _ => spendIfGranted tx invite

/-- The statement of a transaction, for all but the increment and the commit; `none` when it throws. -/
def Tx.statement (s : State) (reply : Reply) (tx : Tx) : Option Tx :=
  match tx.stage with
  | .findingInvite =>
    (assertInviteUsable (some { s.invite with uses := reply.seen }) s.now).toOption.map fun invite =>
      { tx with stage := match tx.caller with
        | .registers _ => .creatingUser invite
        | .joins _ => .findingMembership invite }
  | .creatingUser invite =>
    if reply.accepted then some { tx with stage := .creatingMembership invite } else none
  | .findingMembership invite =>
    match reply.membership with
    | none => some { tx with stage := .creatingMembership invite }
    | some role => some (afterMembership tx invite role)
  | .creatingMembership invite =>
    if reply.accepted then
      let tx := { tx with granted := true }
      match tx.caller with
      | .registers _ => some { tx with stage := .incrementing invite }
      | .joins _ => some (afterMembership tx invite invite.role)
    else none
  | .findingEnrollment invite =>
    if reply.enrolled then some (spendIfGranted tx invite)
    else some { tx with stage := .creatingEnrollment invite }
  | .creatingEnrollment invite =>
    if reply.accepted then some (afterCourse { tx with granted := true } invite) else none
  | .updatingCourse invite => if reply.accepted then some (afterCourse tx invite) else none
  | .incrementing _ | .committing => none

/-- What follows the increment. -/
def afterIncrement (tx : Tx) (invite : Invite) : Tx :=
  match tx.caller with
  | .registers _ => { tx with stage := (courseStage tx invite invite.role).getD .committing }
  | .joins _ => { tx with stage := .committing }

/-- A transaction is over and has changed nothing. -/
def State.rollback (s : State) (i : Nat) : State :=
  { s with txs := s.txs.put i none, holder := if s.holder = some i then none else s.holder }

/-- A transaction is over, and what it has written is committed. -/
def State.commit (s : State) (i : Nat) (tx : Tx) : State :=
  let uses := if s.holder = some i then s.invite.uses + 1 else s.invite.uses
  { s with
    invite := { s.invite with uses := uses }
    versions := uses :: s.versions
    holder := if s.holder = some i then none else s.holder
    txs := s.txs.put i none
    grantedTo := if tx.granted then tx.caller.userId :: s.grantedTo else s.grantedTo }

def step (s : State) : Event → Option State
  | .begin i caller =>
    if (s.txs.get i).isSome then none else some { s with txs := s.txs.put i (some ⟨caller, .findingInvite, false⟩) }
  | .resume i reply =>
    (s.txs.get i).bind fun tx =>
      match tx.stage with
      | .incrementing invite =>
        -- The row is locked while another transaction has incremented it.
        if s.holder.isSome then none
        else if reply.accepted then
          some { s with holder := some i, txs := s.txs.put i (some (afterIncrement tx invite)) }
        else some (s.rollback i)
      | .committing => some (s.commit i tx)
      | _ =>
        if reply.seen ∈ s.versions then
          match tx.statement s reply with
          | some tx => some { s with txs := s.txs.put i (some tx) }
          | none => some (s.rollback i)
        else none
  | .abort i => (s.txs.get i).map fun _ => s.rollback i
  | .revoke => some { s with invite := { s.invite with revokedAt := some s.now } }
  | .tick ms => some { s with now := s.now + ms }

/-! ## The condition -/

/-- A transaction that has incremented the invite commits while the invite still passes the test that it
passed when the transaction read it. -/
def stillUsable (s : State) : Event → Bool
  | .resume i _ =>
    match s.txs.get i with
    | some ⟨_, .committing, _⟩ => s.holder != some i || !s.invite.usedUp
    | _ => true
  | _ => true

/-! ## What a transaction has spent -/

/-- A transaction that has incremented the invite. -/
def Tx.spent (tx : Tx) : Bool :=
  match tx.caller, tx.stage with
  | .registers _, .creatingEnrollment _ | .registers _, .updatingCourse _ | .registers _, .committing => true
  | .joins _, .committing => tx.granted
  | _, _ => false

/-- Only what has granted something spends a use, and `register` takes its own way. -/
structure Tx.Sound (tx : Tx) : Prop where
  incrementing : ∀ invite, tx.stage = .incrementing invite → tx.granted = true
  registers : ∀ created, tx.caller = .registers created →
    (tx.spent = true → tx.granted = true) ∧ (∀ invite, tx.stage ≠ .findingMembership invite) ∧
      ∀ invite, tx.stage ≠ .findingEnrollment invite

structure Inv (s : State) : Prop where
  holder : ∀ i, s.holder = some i ↔ ∃ tx, s.txs.get i = some tx ∧ tx.spent = true
  txs : ∀ i tx, s.txs.get i = some tx → tx.Sound
  count : s.grantedTo.length = s.invite.uses

/-- What a joining transaction goes on with has not spent a use yet. -/
theorem spendIfGranted_sound {tx : Tx} {invite : Invite} {userId : UserId} (hcaller : tx.caller = .joins userId) :
    (spendIfGranted tx invite).Sound ∧ (spendIfGranted tx invite).spent = false := by
  obtain ⟨caller, stage, granted⟩ := tx
  cases hcaller
  cases granted with
  | true => exact ⟨⟨fun _ _ => rfl, fun _ h => (by cases h)⟩, rfl⟩
  | false => exact ⟨⟨fun _ h => (by cases h), fun _ h => (by cases h)⟩, rfl⟩

theorem joins_sound {userId : UserId} {granted : Bool} (stage : Stage)
    (hstage : (∀ invite, stage ≠ .incrementing invite) ∧ stage ≠ .committing) :
    (⟨.joins userId, stage, granted⟩ : Tx).Sound ∧ (⟨.joins userId, stage, granted⟩ : Tx).spent = false := by
  refine ⟨⟨fun invite h => absurd h (hstage.1 invite), fun _ h => (by cases h)⟩, ?_⟩
  unfold Tx.spent
  cases stage with
  | committing => exact absurd rfl hstage.2
  | _ => rfl

theorem afterMembership_sound {tx : Tx} {invite : Invite} {role : Role} {userId : UserId}
    (hcaller : tx.caller = .joins userId) :
    (afterMembership tx invite role).Sound ∧ (afterMembership tx invite role).spent = false := by
  obtain ⟨caller, old, granted⟩ := tx
  cases hcaller
  unfold afterMembership courseStage
  cases invite.courseId with
  | none => exact spendIfGranted_sound rfl
  | some course =>
    cases role with
    | student => exact joins_sound (.findingEnrollment invite) ⟨fun _ => (by rintro ⟨⟩), by rintro ⟨⟩⟩
    | instructor => exact joins_sound (.updatingCourse invite) ⟨fun _ => (by rintro ⟨⟩), by rintro ⟨⟩⟩
    | orgAdmin => exact spendIfGranted_sound rfl

/-- A transaction of `register` that has granted something. -/
theorem registers_granted {created : UserId} {stage : Stage}
    (hstage : (∀ invite, stage ≠ .findingMembership invite) ∧ ∀ invite, stage ≠ .findingEnrollment invite) :
    (⟨.registers created, stage, true⟩ : Tx).Sound :=
  ⟨fun _ _ => rfl, fun _ _ => ⟨fun _ => rfl, hstage⟩⟩

/-- A statement before or after the increment leaves what is spent as it was. -/
theorem statement_sound {s : State} {reply : Reply} {tx tx' : Tx} (h : tx.statement s reply = some tx')
    (hs : tx.Sound) : tx'.Sound ∧ tx'.spent = tx.spent := by
  obtain ⟨caller, stage, granted⟩ := tx
  cases caller with
  | joins userId =>
    cases stage with
    | findingInvite =>
      obtain ⟨invite, -, rfl⟩ := Option.map_eq_some_iff.1 h
      exact ⟨⟨fun _ h => (by cases h), fun _ h => (by cases h)⟩, rfl⟩
    | creatingUser invite =>
      simp only [Tx.statement] at h
      split at h <;> cases h
      exact ⟨⟨fun _ h => (by cases h), fun _ h => (by cases h)⟩, rfl⟩
    | findingMembership invite =>
      simp only [Tx.statement] at h
      split at h <;> cases h
      · exact ⟨⟨fun _ h => (by cases h), fun _ h => (by cases h)⟩, rfl⟩
      · exact afterMembership_sound rfl
    | creatingMembership invite =>
      simp only [Tx.statement] at h
      split at h <;> cases h
      exact afterMembership_sound rfl
    | findingEnrollment invite =>
      simp only [Tx.statement] at h
      split at h <;> cases h
      · exact spendIfGranted_sound rfl
      · exact ⟨⟨fun _ h => (by cases h), fun _ h => (by cases h)⟩, rfl⟩
    | creatingEnrollment invite =>
      simp only [Tx.statement] at h
      split at h <;> cases h
      exact spendIfGranted_sound rfl
    | updatingCourse invite =>
      simp only [Tx.statement] at h
      split at h <;> cases h
      exact spendIfGranted_sound rfl
    | incrementing invite => cases h
    | committing => cases h
  | registers created =>
    have hown := hs.registers created rfl
    cases stage with
    | findingInvite =>
      obtain ⟨invite, -, rfl⟩ := Option.map_eq_some_iff.1 h
      exact ⟨⟨fun _ h => (by cases h), fun _ _ => ⟨fun h => (by cases h), fun _ => (by rintro ⟨⟩),
        fun _ => (by rintro ⟨⟩)⟩⟩, rfl⟩
    | creatingUser invite =>
      simp only [Tx.statement] at h
      split at h <;> cases h
      exact ⟨⟨fun _ h => (by cases h), fun _ _ => ⟨fun h => (by cases h), fun _ => (by rintro ⟨⟩),
        fun _ => (by rintro ⟨⟩)⟩⟩, rfl⟩
    | findingMembership invite => exact absurd rfl (hown.2.1 invite)
    | creatingMembership invite =>
      simp only [Tx.statement] at h
      split at h <;> cases h
      exact ⟨registers_granted ⟨fun _ => (by rintro ⟨⟩), fun _ => (by rintro ⟨⟩)⟩, rfl⟩
    | findingEnrollment invite => exact absurd rfl (hown.2.2 invite)
    | creatingEnrollment invite =>
      simp only [Tx.statement] at h
      split at h <;> cases h
      exact ⟨registers_granted ⟨fun _ => (by rintro ⟨⟩), fun _ => (by rintro ⟨⟩)⟩, rfl⟩
    | updatingCourse invite =>
      simp only [Tx.statement] at h
      split at h <;> cases h
      exact ⟨⟨fun _ h => (by cases h), fun _ _ => ⟨fun _ => hown.1 rfl, fun _ => (by rintro ⟨⟩),
        fun _ => (by rintro ⟨⟩)⟩⟩, rfl⟩
    | incrementing invite => cases h
    | committing => cases h

/-- The increment spends a use. -/
theorem afterIncrement_sound {tx : Tx} {invite : Invite} (hgranted : tx.granted = true) :
    (afterIncrement tx invite).Sound ∧ (afterIncrement tx invite).spent = true := by
  obtain ⟨caller, stage, granted⟩ := tx
  cases hgranted
  cases caller with
  | joins userId => exact ⟨⟨fun _ h => (by cases h), fun _ h => (by cases h)⟩, rfl⟩
  | registers created =>
    unfold afterIncrement courseStage
    cases invite.courseId with
    | none =>
      exact ⟨registers_granted ⟨fun _ => (by rintro ⟨⟩), fun _ => (by rintro ⟨⟩)⟩, rfl⟩
    | some course =>
      cases invite.role with
      | student =>
        exact ⟨registers_granted ⟨fun _ => (by rintro ⟨⟩), fun _ => (by rintro ⟨⟩)⟩, rfl⟩
      | instructor =>
        exact ⟨registers_granted ⟨fun _ => (by rintro ⟨⟩), fun _ => (by rintro ⟨⟩)⟩, rfl⟩
      | orgAdmin =>
        exact ⟨registers_granted ⟨fun _ => (by rintro ⟨⟩), fun _ => (by rintro ⟨⟩)⟩, rfl⟩

/-! ## What the steps keep -/

/-- Nobody has used the invite, and nobody is using it. -/
structure Initial (s : State) : Prop where
  txs : ∀ i, s.txs.get i = none
  holder : s.holder = none
  uses : s.invite.uses = 0
  grantedTo : s.grantedTo = []

theorem initial_inv {s : State} (h : Initial s) : Inv s := by
  refine ⟨fun i => ?_, fun i tx htx => ?_, ?_⟩
  · rw [h.holder, h.txs]
    constructor
    · rintro ⟨⟩
    · rintro ⟨tx, ⟨⟩, -⟩
  · rw [h.txs] at htx
    cases htx
  · rw [h.grantedTo, h.uses]
    rfl

/-- Transaction `i` goes on, holding the row if and only if it has spent a use. -/
theorem Inv.put {s : State} (hs : Inv s) (i : Nat) {tx : Tx} {holder : Option Nat} (htx : tx.Sound)
    (hholder : ∀ j, holder = some j ↔ if j = i then tx.spent = true else s.holder = some j) :
    Inv { s with holder := holder, txs := s.txs.put i (some tx) } := by
  refine ⟨fun j => ?_, fun j u hu => ?_, hs.count⟩
  · rw [hholder j]
    by_cases hj : j = i
    · subst hj
      rw [if_pos rfl, Pool.get_put_self]
      simp
    · rw [if_neg hj, Pool.get_put_of_ne hj]
      exact hs.holder j
  · rcases Pool.get_put_cases hu with ⟨-, hu⟩ | ⟨-, hu⟩
    · cases hu
      exact htx
    · exact hs.txs j u hu

/-- Transaction `i` is over, and the row is free if it was the one that held it. -/
theorem Inv.over {s : State} (hs : Inv s) (i : Nat) {invite : Invite} {versions : List Nat} {grantedTo : List UserId}
    (hcount : grantedTo.length = invite.uses) :
    Inv { s with
      invite := invite, versions := versions, holder := if s.holder = some i then none else s.holder,
      txs := s.txs.put i none, grantedTo := grantedTo } := by
  refine ⟨fun j => ?_, fun j u hu => ?_, hcount⟩
  · by_cases hj : j = i
    · subst hj
      rw [Pool.get_put_self]
      constructor
      · intro h
        split at h
        · cases h
        · contradiction
      · rintro ⟨tx, ⟨⟩, -⟩
    · rw [Pool.get_put_of_ne hj, ← hs.holder j]
      split
      · rename_i hi
        rw [hi]
        constructor
        · rintro ⟨⟩
        · intro h
          exact absurd (Option.some.inj h).symm hj
      · rfl
  · rcases Pool.get_put_cases hu with ⟨-, hu⟩ | ⟨-, hu⟩
    · cases hu
    · exact hs.txs j u hu

theorem rollback_inv {s : State} (hs : Inv s) (i : Nat) : Inv (s.rollback i) := hs.over i hs.count

/-- A transaction that commits has granted something exactly when it has spent a use. -/
theorem committing_granted {s : State} (hs : Inv s) {i : Nat} {tx : Tx} (hget : s.txs.get i = some tx)
    (hstage : tx.stage = .committing) : s.holder = some i ↔ tx.granted = true := by
  have hspent : tx.spent = true ↔ tx.granted = true := by
    have hsound := hs.txs i tx hget
    obtain ⟨caller, stage, granted⟩ := tx
    cases hstage
    cases caller with
    | joins userId => exact Iff.rfl
    | registers created => exact ⟨(hsound.registers created rfl).1, fun _ => rfl⟩
  rw [hs.holder i, ← hspent]
  constructor
  · rintro ⟨u, hu, hspent⟩
    rw [hget] at hu
    cases hu
    exact hspent
  · exact fun h => ⟨tx, hget, h⟩

theorem commit_inv {s : State} (hs : Inv s) {i : Nat} {tx : Tx} (hget : s.txs.get i = some tx)
    (hstage : tx.stage = .committing) : Inv (s.commit i tx) := by
  have hgranted := committing_granted hs hget hstage
  refine hs.over i ?_
  by_cases hholder : s.holder = some i
  · rw [if_pos hholder, if_pos (hgranted.1 hholder)]
    exact congrArg (· + 1) hs.count
  · rw [if_neg hholder, if_neg fun h => hholder (hgranted.2 h)]
    exact hs.count

/-- A resumed transaction commits, rolls back or goes on; it holds the row from its increment to its end. -/
theorem step_cases {s s' : State} {ev : Event} (h : step s ev = some s') :
    (∃ i tx reply, ev = .resume i reply ∧ s.txs.get i = some tx ∧ tx.stage = .committing ∧ s' = s.commit i tx) ∨
    (s'.invite.uses = s.invite.uses ∧ s'.invite.maxUses = s.invite.maxUses ∧ (Inv s → Inv s')) := by
  cases ev with
  | begin i caller =>
    unfold step at h
    dsimp only at h
    split at h
    · cases h
    · rename_i hfree
      cases h
      refine .inr ⟨rfl, rfl, fun hs => hs.put i ?_ fun j => ?_⟩
      · exact ⟨fun _ h => (by cases h), fun _ _ =>
          ⟨fun h => (by cases caller <;> cases h), fun _ => (by rintro ⟨⟩), fun _ => (by rintro ⟨⟩)⟩⟩
      · by_cases hj : j = i
        · subst hj
          rw [if_pos rfl, hs.holder j]
          constructor
          · rintro ⟨tx, htx, -⟩
            rw [htx] at hfree
            exact absurd rfl hfree
          · intro hspent
            cases caller <;> cases hspent
        · rw [if_neg hj]
  | resume i reply =>
    obtain ⟨tx, hget, h⟩ := Option.bind_eq_some_iff.1 h
    split at h
    · rename_i invite hstage
      split at h
      · cases h
      · rename_i hfree
        split at h
        · cases h
          refine .inr ⟨rfl, rfl, fun hs => ?_⟩
          obtain ⟨hsound, hspent⟩ := afterIncrement_sound ((hs.txs i tx hget).incrementing invite hstage)
          refine hs.put i hsound fun j => ?_
          by_cases hj : j = i
          · subst hj
            rw [if_pos rfl, hspent]
            simp
          · rw [if_neg hj]
            have hnone : s.holder = none := by simpa using hfree
            rw [hnone]
            constructor
            · intro h
              exact absurd (Option.some.inj h).symm hj
            · rintro ⟨⟩
        · cases h
          exact .inr ⟨rfl, rfl, fun hs => rollback_inv hs i⟩
    · rename_i hstage
      cases h
      exact .inl ⟨i, tx, reply, rfl, hget, hstage, rfl⟩
    · split at h
      · split at h
        · rename_i tx' hstatement
          cases h
          refine .inr ⟨rfl, rfl, fun hs => ?_⟩
          obtain ⟨hsound, hspent⟩ := statement_sound hstatement (hs.txs i tx hget)
          refine hs.put i hsound fun j => ?_
          by_cases hj : j = i
          · subst hj
            rw [if_pos rfl, hspent, hs.holder j, hget]
            simp
          · rw [if_neg hj]
        · cases h
          exact .inr ⟨rfl, rfl, fun hs => rollback_inv hs i⟩
      · cases h
  | abort i =>
    obtain ⟨tx, -, rfl⟩ := Option.map_eq_some_iff.1 h
    exact .inr ⟨rfl, rfl, fun hs => rollback_inv hs i⟩
  | revoke =>
    cases h
    exact .inr ⟨rfl, rfl, fun hs => ⟨hs.holder, hs.txs, hs.count⟩⟩
  | tick ms =>
    cases h
    exact .inr ⟨rfl, rfl, fun hs => ⟨hs.holder, hs.txs, hs.count⟩⟩

theorem step_inv {s s' : State} {ev : Event} (hs : Inv s) (h : step s ev = some s') : Inv s' := by
  rcases step_cases h with ⟨i, tx, reply, -, hget, hstage, rfl⟩ | ⟨-, -, hinv⟩
  · exact commit_inv hs hget hstage
  · exact hinv hs

theorem step_maxUses {s s' : State} {ev : Event} (h : step s ev = some s') : s'.invite.maxUses = s.invite.maxUses := by
  rcases step_cases h with ⟨i, tx, reply, -, -, -, rfl⟩ | ⟨-, hmax, -⟩
  · rfl
  · exact hmax

/-! ## The limit -/

theorem usedUp_iff {invite : Invite} {m : Nat} (h : invite.maxUses = some m) :
    invite.usedUp = true ↔ m ≤ invite.uses := by
  unfold Invite.usedUp
  rw [h]
  simp

/-- A step that meets the condition stays within the limit. -/
theorem step_limit {s s' : State} {ev : Event} {m : Nat} (hmax : s.invite.maxUses = some m) (hs : s.invite.uses ≤ m)
    (hok : stillUsable s ev = true) (h : step s ev = some s') : s'.invite.uses ≤ m := by
  rcases step_cases h with ⟨i, tx, reply, rfl, hget, hstage, rfl⟩ | ⟨huses, -, -⟩
  · show (if s.holder = some i then s.invite.uses + 1 else s.invite.uses) ≤ m
    by_cases hholder : s.holder = some i
    · rw [if_pos hholder]
      obtain ⟨caller, stage, granted⟩ := tx
      cases hstage
      have husable : s.invite.usedUp = false := by simpa [stillUsable, hget, hholder] using hok
      rw [Bool.eq_false_iff, ne_eq, usedUp_iff hmax] at husable
      omega
    · rw [if_neg hholder]
      exact hs
  · rw [huses]
    exact hs

/-- A step that does not meet it spends a use too many. -/
theorem step_overspends {s s' : State} {ev : Event} {m : Nat} (hmax : s.invite.maxUses = some m)
    (hbad : stillUsable s ev = false) (h : step s ev = some s') : m < s'.invite.uses := by
  cases ev with
  | resume i reply =>
    obtain ⟨tx, hget, h⟩ := Option.bind_eq_some_iff.1 h
    obtain ⟨caller, stage, granted⟩ := tx
    cases stage with
    | committing =>
      simp only [stillUsable, hget, Bool.or_eq_false_iff, bne_eq_false_iff_eq, Bool.not_eq_false'] at hbad
      obtain ⟨hholder, hused⟩ := hbad
      cases h
      show m < if s.holder = some i then s.invite.uses + 1 else s.invite.uses
      rw [if_pos hholder]
      exact Nat.lt_succ_of_le ((usedUp_iff hmax).1 hused)
    | _ => simp [stillUsable, hget] at hbad
  | _ => cases hbad

namespace Example

/-- A link for one student. -/
def single : State where
  invite := ⟨"acme", .student, none, some 1, 0, none, none⟩
  versions := [0]
  holder := none
  txs := Pool.empty
  now := 0
  grantedTo := []

def reply (seen : Nat) : Reply := ⟨seen, none, false, true⟩

/-- The statements of one transaction of `register`, and those of `joinWorkspace`, after the read. -/
def rest (i n : Nat) : List Event := List.replicate n (.resume i (reply 0))

/-- One person registers, and a second one is refused. -/
def oneByOne : List Event :=
  [.begin 0 (.registers "aisha")] ++ rest 0 5 ++ [.begin 1 (.joins "bilal"), .resume 1 (reply 1)]

/-- A second one reads the invite before the first has committed. -/
def together : List Event :=
  [.begin 0 (.registers "aisha"), .begin 1 (.joins "bilal")] ++ rest 1 1 ++ rest 0 5 ++ rest 1 4

theorem single_initial : Initial single := by
  refine ⟨fun i => rfl, rfl, rfl, rfl⟩

end Example

end Livetich.Auth.Invites
