/-
The passcode of a shortcut (`QuickAccessService.redeem`), with its wrong codes and its locks. A call
reads the row, compares the code and writes back a count and a lock that it made of what it had read;
redeems of one shortcut interleave at each await.
-/
import Livetich.Auth.Model
import Livetich.Lib.Spaced
import Livetich.Lib.TransSys

namespace Livetich.Auth.QuickAccess

open TransSys Livetich.Lib

def maxAttempts : Nat := 5

/-- `LOCK_MINUTES`, in milliseconds. -/
def lockMs : Nat := 15 * 60000

/-! ## Redeeming -/

/-- The row that the slug finds, with the status of its user. -/
structure Shortcut where
  userId : UserId
  passcodeHash : String
  failedAttempts : Nat
  lockedUntil : Option Nat
  revokedAt : Option Nat
  lastUsedAt : Option Nat
  userStatus : UserStatus
  deriving DecidableEq

/-- A call of `redeem`, by what it waits for. -/
inductive Call
  | finding (passcode : String)
  | comparing (passcode : String) (row : Shortcut)
  | failing (failedAttempts : Nat) (lockedUntil : Option Nat)
  | opening (userId : UserId)
  deriving DecidableEq

/-- What a call does next: go on, or answer. -/
inductive Next
  | goes (c : Call)
  | answers (r : Result UserId)

def refuse : HttpError := .unauthorized "That code is not right for this shortcut."

/-- The refusal while the shortcut is locked. -/
def locked (lockedUntil now : Nat) : HttpError :=
  let mins := (lockedUntil - now + 59999) / 60000
  .unauthorized ("Too many wrong codes. Try again in " ++ toString mins ++ " minute" ++
    (if mins = 1 then "" else "s") ++ ", or sign in with your email and password.")

/-- The shortcut's row as `redeem` reads it at a time. -/
def Shortcut.admits (row : Shortcut) (now : Nat) : Result Unit :=
  if row.revokedAt.isSome then .error refuse
  else match row.lockedUntil with
    | some lockedUntil => if now < lockedUntil then .error (locked lockedUntil now) else .ok ()
    | none => .ok ()

structure State where
  row : Shortcut
  now : Nat
  calls : Pool Call
  /-- The wrong codes that were compared, each with the number of locks set before it and its time. -/
  tested : List (Nat × Nat)
  locks : Nat

inductive Event
  | redeem (i : Nat) (passcode : String)
  | resume (i : Nat)
  | tick (ms : Nat)
  | revoke
  | setUserStatus (status : UserStatus)
  deriving DecidableEq

/-- What is written back after a wrong code. -/
def failure (row : Shortcut) (now : Nat) : Nat × Option Nat :=
  let attempts := row.failedAttempts + 1
  if maxAttempts ≤ attempts then (0, some (now + lockMs)) else (attempts, none)

def State.next (s : State) (i : Nat) : Next → State
  | .goes c => { s with calls := s.calls.put i (some c) }
  | .answers _ => { s with calls := s.calls.put i none }

section

-- `bcryptVerify`.
variable (verify : String → String → Bool)

def State.resume (s : State) (i : Nat) : Call → State
  | .finding passcode =>
    s.next i (match s.row.admits s.now with
      | .ok () => .goes (.comparing passcode s.row)
      | .error e => .answers (.error e))
  | .comparing passcode row =>
    if verify passcode row.passcodeHash then
      s.next i (if row.userStatus = .disabled then .answers (.error (.forbidden "This account has been disabled"))
        else .goes (.opening row.userId))
    else
      let (failedAttempts, lockedUntil) := failure row s.now
      { s with tested := (s.locks, s.now) :: s.tested }.next i (.goes (.failing failedAttempts lockedUntil))
  | .failing failedAttempts lockedUntil =>
    { s with
      row := { s.row with failedAttempts := failedAttempts, lockedUntil := lockedUntil }
      locks := s.locks + (if lockedUntil.isSome then 1 else 0) }.next i (.answers (.error refuse))
  | .opening userId =>
    { s with row := { s.row with failedAttempts := 0, lockedUntil := none, lastUsedAt := some s.now } }.next i
      (.answers (.ok userId))

def step (s : State) : Event → Option State
  | .redeem i passcode =>
    if (s.calls.get i).isSome then none else some (s.next i (.goes (.finding passcode)))
  | .resume i => (s.calls.get i).map (s.resume verify i)
  | .tick ms => some { s with now := s.now + ms }
  | .revoke =>
    some (if s.row.revokedAt.isSome then s else { s with row := { s.row with revokedAt := some s.now } })
  | .setUserStatus status => some { s with row := { s.row with userStatus := status } }

/-! ## The condition -/

/-- A call that has been let in with a wrong code, and has not written it down yet. -/
def Call.wrong : Call → Bool
  | .comparing passcode row => !verify passcode row.passcodeHash
  | .failing _ _ => true
  | .finding _ | .opening _ => false

/-- A wrong code is only let in while no other one is on its way. -/
def oneByOne (s : State) : Event → Bool
  | .resume i =>
    match s.calls.get i with
    | some (.finding passcode) =>
      verify passcode s.row.passcodeHash || (s.row.admits s.now).toOption.isNone ||
        !(s.calls.entries.any fun e => e.2.wrong verify)
    | _ => true
  | _ => true

/-- The call that goes on has found the code right. -/
def succeeds (s : State) : Event → Bool
  | .resume i => (s.calls.get i).any fun c => match c with
    | .opening _ => true
    | _ => false
  | _ => false

end

/-! ## What a wrong code on its way knows -/

/-- The wrong codes that were compared since the last lock. -/
def State.since (s : State) : Nat := s.tested.countP fun x => x.1 = s.locks

/-- The locks since each earlier wrong code are over by this time. -/
def State.OverBy (s : State) (t : Nat) : Prop :=
  ∀ x ∈ s.tested, x.1 < s.locks → x.2 + lockMs * (s.locks - x.1) ≤ t

def State.Unlocked (s : State) : Prop := ∀ t ∈ s.row.lockedUntil, t ≤ s.now

/-- What is about to be written down: a count that leaves out no code, or a lock that is long enough. -/
def Counts (s : State) (failedAttempts : Nat) : Option Nat → Prop
  | none => s.since ≤ failedAttempts ∧ s.since < maxAttempts
  | some t => ∀ x ∈ s.tested, x.2 + lockMs * (s.locks + 1 - x.1) ≤ t

variable {verify : String → String → Bool}

theorem wrong_comparing (passcode : String) (row : Shortcut) :
    (Call.comparing passcode row).wrong verify = !verify passcode row.passcodeHash := rfl

def Call.Knows (s : State) : Call → Prop
  | .comparing _ row => row.failedAttempts = s.row.failedAttempts ∧ s.since ≤ s.row.failedAttempts ∧
      s.since < maxAttempts ∧ s.OverBy s.now ∧ s.Unlocked
  | .failing failedAttempts lockedUntil => Counts s failedAttempts lockedUntil ∧ s.OverBy s.now ∧ s.Unlocked
  | .finding _ | .opening _ => True

structure Inv (verify : String → String → Bool) (s : State) : Prop where
  alone : ∀ i c j d, s.calls.get i = some c → s.calls.get j = some d → c.wrong verify = true →
    d.wrong verify = true → i = j
  calls : ∀ i c, s.calls.get i = some c → c.wrong verify = true → c.Knows s
  spaced : Spaced maxAttempts lockMs s.tested
  before : ∀ x ∈ s.tested, x.1 ≤ s.locks ∧ x.2 ≤ s.now
  /-- With no wrong code on its way, the row counts them all, and it is locked for as long as it has to be. -/
  idle : (∀ i c, s.calls.get i = some c → c.wrong verify = false) →
    s.since ≤ s.row.failedAttempts ∧ s.since < maxAttempts ∧
      (s.OverBy s.now ∨ ∃ t, s.row.lockedUntil = some t ∧ s.OverBy t)

/-- Nobody is guessing yet. -/
structure Initial (s : State) : Prop where
  calls : ∀ i, s.calls.get i = none
  tested : s.tested = []

theorem initial_inv {s : State} (h : Initial s) : Inv verify s := by
  have hsince : s.since = 0 := by
    unfold State.since
    rw [h.tested]
    rfl
  refine ⟨fun i c j d hc => ?_, fun i c hc => ?_, ?_, fun x hx => ?_, fun _ => ⟨?_, ?_, .inl fun x hx => ?_⟩⟩
  · rw [h.calls] at hc
    cases hc
  · rw [h.calls] at hc
    cases hc
  · rw [h.tested]
    exact Spaced.nil _ _
  · rw [h.tested] at hx
    cases hx
  · rw [hsince]
    exact Nat.zero_le _
  · rw [hsince]
    decide
  · rw [h.tested] at hx
    cases hx

/-- Time goes on, and what the row says of codes and locks stays. -/
theorem Inv.row_only {s t : State} (hs : Inv verify s) (hcalls : t.calls = s.calls) (htested : t.tested = s.tested)
    (hlocks : t.locks = s.locks) (hnow : s.now ≤ t.now) (hfailed : t.row.failedAttempts = s.row.failedAttempts)
    (hlocked : t.row.lockedUntil = s.row.lockedUntil) : Inv verify t := by
  have hsince : t.since = s.since := by
    unfold State.since
    rw [htested, hlocks]
  have hover : ∀ u v, u ≤ v → s.OverBy u → t.OverBy v := by
    intro u v huv h x hx hlt
    rw [htested] at hx
    rw [hlocks] at hlt ⊢
    exact (h x hx hlt).trans huv
  have hunlocked : s.Unlocked → t.Unlocked := by
    intro h u hu
    rw [hlocked] at hu
    exact (h u hu).trans hnow
  refine ⟨fun i c j d hc hd => ?_, fun i c hc hw => ?_, htested ▸ hs.spaced, fun x hx => ?_, fun hidle => ?_⟩
  · rw [hcalls] at hc hd
    exact hs.alone i c j d hc hd
  · rw [hcalls] at hc
    have hk := hs.calls i c hc hw
    cases c with
    | finding passcode => trivial
    | opening userId => trivial
    | comparing passcode row =>
      obtain ⟨hrow, hcount, hfew, ho, hu⟩ := hk
      refine ⟨hrow.trans hfailed.symm, ?_, ?_, hover _ _ hnow ho, hunlocked hu⟩
      · rw [hsince, hfailed]
        exact hcount
      · rw [hsince]
        exact hfew
    | failing failedAttempts lockedUntil =>
      obtain ⟨hcounts, ho, hu⟩ := hk
      refine ⟨?_, hover _ _ hnow ho, hunlocked hu⟩
      cases lockedUntil with
      | none =>
        unfold Counts
        rw [hsince]
        exact hcounts
      | some u =>
        intro x hx
        rw [htested] at hx
        rw [hlocks]
        exact hcounts x hx
  · rw [htested] at hx
    rw [hlocks]
    exact ⟨(hs.before x hx).1, (hs.before x hx).2.trans hnow⟩
  · rw [hcalls] at hidle
    obtain ⟨hcount, hfew, hend⟩ := hs.idle hidle
    rw [hsince, hfailed, hlocked]
    refine ⟨hcount, hfew, ?_⟩
    rcases hend with h | ⟨u, hu, h⟩
    · exact .inl (hover _ _ hnow h)
    · exact .inr ⟨u, hu, hover u u (Nat.le_refl u) h⟩

/-- A call that is not on its way with a wrong code comes, goes on or ends. -/
theorem Inv.put_right {s : State} (hs : Inv verify s) (i : Nat) {t : Option Call}
    (hbefore : ∀ c, s.calls.get i = some c → c.wrong verify = false)
    (hafter : ∀ c, t = some c → c.wrong verify = false) : Inv verify { s with calls := s.calls.put i t } := by
  have hold : ∀ j c, (s.calls.put i t).get j = some c → c.wrong verify = true → s.calls.get j = some c := by
    intro j c hc hw
    rcases Pool.get_put_cases hc with ⟨-, ht⟩ | ⟨-, hc⟩
    · rw [hafter c ht] at hw
      cases hw
    · exact hc
  refine ⟨fun j c k d hc hd hcw hdw => hs.alone j c k d (hold j c hc hcw) (hold k d hd hdw) hcw hdw,
    fun j c hc hw => ?_, hs.spaced, hs.before, fun hidle => hs.idle fun j c hc => ?_⟩
  · have hk := hs.calls j c (hold j c hc hw) hw
    cases c <;> exact hk
  · by_cases hj : j = i
    · exact hbefore c (hj ▸ hc)
    · exact hidle j c ((Pool.get_put_of_ne hj).trans hc)

/-! ## The steps of a wrong code -/

theorem admits_ok {row : Shortcut} {now : Nat} (h : row.admits now = .ok ()) : ∀ t ∈ row.lockedUntil, t ≤ now := by
  unfold Shortcut.admits at h
  split at h
  · cases h
  · intro t ht
    rw [Option.mem_def] at ht
    rw [ht] at h
    simp only at h
    split at h
    · cases h
    · omega

/-- A wrong code is let in: the locks before it are over, and it is the only one on its way. -/
theorem Inv.let_in {s : State} (hs : Inv verify s) (i : Nat) {passcode : String}
    (hadmits : s.row.admits s.now = .ok ()) (halone : ∀ j c, s.calls.get j = some c → c.wrong verify = false) :
    Inv verify { s with calls := s.calls.put i (some (.comparing passcode s.row)) } := by
  obtain ⟨hcount, hfew, hend⟩ := hs.idle halone
  have hunlocked : s.Unlocked := admits_ok hadmits
  have hover : s.OverBy s.now := by
    rcases hend with h | ⟨t, ht, h⟩
    · exact h
    · exact fun x hx hlt => (h x hx hlt).trans (hunlocked t ht)
  have honly : ∀ j c, (s.calls.put i (some (.comparing passcode s.row))).get j = some c → c.wrong verify = true →
      j = i ∧ c = .comparing passcode s.row := by
    intro j c hc hw
    rcases Pool.get_put_cases hc with ⟨hj, ht⟩ | ⟨-, hc⟩
    · exact ⟨hj, (Option.some.inj ht).symm⟩
    · rw [halone j c hc] at hw
      cases hw
  refine ⟨fun j c k d hc hd hcw hdw => ?_, fun j c hc hw => ?_, hs.spaced, hs.before, fun hidle => ?_⟩
  · rw [(honly j c hc hcw).1, (honly k d hd hdw).1]
  · obtain ⟨-, rfl⟩ := honly j c hc hw
    exact ⟨rfl, hcount, hfew, hover, hunlocked⟩
  · exact ⟨hcount, hfew, .inl hover⟩

/-- A wrong code is compared: it is one more in its round, and will be counted or bring a lock. -/
theorem Inv.compared {s : State} (hs : Inv verify s) {i : Nat} {passcode : String} {row : Shortcut}
    (hget : s.calls.get i = some (.comparing passcode row)) (hwrong : verify passcode row.passcodeHash = false) :
    Inv verify { s with
      tested := (s.locks, s.now) :: s.tested
      calls := s.calls.put i (some (.failing (failure row s.now).1 (failure row s.now).2)) } := by
  have hw : (Call.comparing passcode row).wrong verify = true := by
    rw [wrong_comparing, hwrong]
    rfl
  obtain ⟨hrow, hcount, hfew, hover, hunlocked⟩ := hs.calls i _ hget hw
  have honly : ∀ j c, (s.calls.put i (some (.failing (failure row s.now).1 (failure row s.now).2))).get j = some c →
      c.wrong verify = true → j = i ∧ c = .failing (failure row s.now).1 (failure row s.now).2 := by
    intro j c hc hcw
    rcases Pool.get_put_cases hc with ⟨hj, ht⟩ | ⟨hj, hc⟩
    · exact ⟨hj, (Option.some.inj ht).symm⟩
    · exact absurd (hs.alone j c i _ hc hget hcw hw) hj
  have hself : (s.calls.put i (some (.failing (failure row s.now).1 (failure row s.now).2))).get i =
      some (.failing (failure row s.now).1 (failure row s.now).2) := by
    rw [Pool.get_put_self]
  refine ⟨fun j c k d hc hd hcw hdw => ?_, fun j c hc hcw => ?_, ?_, fun x hx => ?_, fun hidle => ?_⟩
  · rw [(honly j c hc hcw).1, (honly k d hd hdw).1]
  · obtain ⟨-, rfl⟩ := honly j c hc hcw
    refine ⟨?_, fun x hx hlt => ?_, hunlocked⟩
    · unfold failure
      by_cases hlock : maxAttempts ≤ row.failedAttempts + 1
      · rw [if_pos hlock]
        intro x hx
        rcases List.mem_cons.1 hx with rfl | hx
        · show s.now + lockMs * (s.locks + 1 - s.locks) ≤ s.now + lockMs
          rw [Nat.add_sub_cancel_left, Nat.mul_one]
        · -- An earlier code is one lock further away than it was.
          obtain ⟨hround, htime⟩ := hs.before x hx
          show x.2 + lockMs * (s.locks + 1 - x.1) ≤ s.now + lockMs
          rw [Nat.succ_sub hround, Nat.mul_succ]
          rcases Nat.eq_or_lt_of_le hround with heq | hlt
          · rw [heq, Nat.sub_self, Nat.mul_zero]
            omega
          · have := hover x hx hlt
            omega
      · rw [if_neg hlock]
        have hmore : s.since + 1 ≤ row.failedAttempts + 1 := by omega
        have hsince : ({ s with
            tested := (s.locks, s.now) :: s.tested
            calls := s.calls.put i (some (.failing (row.failedAttempts + 1) none)) } : State).since = s.since + 1 :=
          List.countP_cons_of_pos (by simp)
        show _ ≤ row.failedAttempts + 1 ∧ _ < maxAttempts
        unfold State.since at hsince hmore ⊢
        rw [hsince]
        exact ⟨hmore, by omega⟩
    · rcases List.mem_cons.1 hx with rfl | hx
      · exact absurd hlt (Nat.lt_irrefl _)
      · exact hover x hx hlt
  · exact hs.spaced.cons (fun x hx => (hs.before x hx).1) hfew fun x hx hlt => hover x hx hlt
  · rcases List.mem_cons.1 hx with rfl | hx
    · exact ⟨Nat.le_refl _, Nat.le_refl _⟩
    · exact hs.before x hx
  · have hnot := hidle i _ hself
    cases hnot

/-- What a wrong code brings is written down: a count, or a lock. -/
theorem Inv.written {s : State} (hs : Inv verify s) {i : Nat} {failedAttempts : Nat} {lockedUntil : Option Nat}
    (hget : s.calls.get i = some (.failing failedAttempts lockedUntil)) :
    Inv verify { s with
      row := { s.row with failedAttempts := failedAttempts, lockedUntil := lockedUntil }
      locks := s.locks + (if lockedUntil.isSome then 1 else 0)
      calls := s.calls.put i none } := by
  have hw : (Call.failing failedAttempts lockedUntil).wrong verify = true := rfl
  obtain ⟨hcounts, hover, hunlocked⟩ := hs.calls i _ hget hw
  have hnone : ∀ j c, (s.calls.put i none).get j = some c → c.wrong verify = false := by
    intro j c hc
    rcases Pool.get_put_cases hc with ⟨-, ht⟩ | ⟨hj, hc⟩
    · cases ht
    · by_contra hcw
      exact hj (hs.alone j c i _ hc hget (by simpa using hcw) hw)
  refine ⟨fun j c k d hc hd hcw => ?_, fun j c hc hcw => ?_, hs.spaced, fun x hx => ?_, fun _ => ?_⟩
  · rw [hnone j c hc] at hcw
    cases hcw
  · rw [hnone j c hc] at hcw
    cases hcw
  · exact ⟨(hs.before x hx).1.trans (Nat.le_add_right _ _), (hs.before x hx).2⟩
  · cases lockedUntil with
    | none => exact ⟨hcounts.1, hcounts.2, .inl hover⟩
    | some t =>
      have hsince : s.tested.countP (fun x => x.1 = s.locks + 1) = 0 := by
        rw [List.countP_eq_zero]
        intro x hx
        have := (hs.before x hx).1
        simp only [decide_eq_true_eq]
        omega
      refine ⟨?_, ?_, .inr ⟨t, rfl, fun x hx _ => hcounts x hx⟩⟩
      · show s.tested.countP (fun x => x.1 = s.locks + 1) ≤ _
        rw [hsince]
        exact Nat.zero_le _
      · show s.tested.countP (fun x => x.1 = s.locks + 1) < _
        rw [hsince]
        decide

theorem step_inv {s s' : State} {ev : Event} (hs : Inv verify s)
    (hok : succeeds s ev = false ∧ oneByOne verify s ev = true) (h : step verify s ev = some s') : Inv verify s' := by
  cases ev with
  | redeem i passcode =>
    unfold step at h
    dsimp only at h
    split at h
    · cases h
    · rename_i hfree
      cases h
      refine hs.put_right i (fun c hc => ?_) fun c hc => ?_
      · rw [hc] at hfree
        exact absurd rfl hfree
      · cases hc
        rfl
  | resume i =>
    obtain ⟨c, hget, rfl⟩ := Option.map_eq_some_iff.1 h
    cases c with
    | finding passcode =>
      have hbefore : ∀ c, s.calls.get i = some c → c.wrong verify = false := by
        intro c hc
        rw [hget] at hc
        cases hc
        rfl
      simp only [State.resume]
      cases hadmits : s.row.admits s.now with
      | error e => exact hs.put_right i hbefore fun c hc => (by cases hc)
      | ok u =>
        simp only [oneByOne, hget, hadmits, Except.toOption, Option.isNone_some, Bool.or_false] at hok
        by_cases hright : verify passcode s.row.passcodeHash = true
        · refine hs.put_right i hbefore fun c hc => ?_
          cases hc
          rw [wrong_comparing, hright]
          rfl
        · refine hs.let_in i hadmits fun j c hc => ?_
          have hany := hok.2
          rw [Bool.eq_false_iff.2 hright, Bool.false_or, Bool.not_eq_true', List.any_eq_false] at hany
          simpa using hany (j, c) (Pool.mem_of_get hc)
    | comparing passcode row =>
      simp only [State.resume]
      by_cases hright : verify passcode row.passcodeHash = true
      · have hbefore : ∀ c, s.calls.get i = some c → c.wrong verify = false := by
          intro c hc
          rw [hget] at hc
          cases hc
          rw [wrong_comparing, hright]
          rfl
        rw [if_pos hright]
        split
        · exact hs.put_right i hbefore fun c hc => (by cases hc)
        · refine hs.put_right i hbefore fun c hc => ?_
          cases hc
          rfl
      · rw [if_neg hright]
        exact hs.compared hget (Bool.eq_false_iff.2 hright)
    | failing failedAttempts lockedUntil => exact hs.written hget
    | opening userId =>
      have hsucceeds := hok.1
      simp [succeeds, hget] at hsucceeds
  | tick ms =>
    cases h
    exact hs.row_only rfl rfl rfl (Nat.le_add_right _ _) rfl rfl
  | revoke =>
    cases h
    split
    · exact hs
    · exact hs.row_only rfl rfl rfl (Nat.le_refl _) rfl rfl
  | setUserStatus status =>
    cases h
    exact hs.row_only rfl rfl rfl (Nat.le_refl _) rfl rfl

/-! ## A lock stands -/

@[simp] theorem next_row (s : State) (i : Nat) (n : Next) : (s.next i n).row = s.row := by
  cases n <;> rfl

@[simp] theorem next_now (s : State) (i : Nat) (n : Next) : (s.next i n).now = s.now := by
  cases n <;> rfl

/-- What is stored of a lock changes only when a call writes down what it has found. -/
theorem resume_row (s : State) (i : Nat) (c : Call) :
    (s.resume verify i c).row.lockedUntil = s.row.lockedUntil ∨ c.wrong verify = true ∨
      ∃ userId, c = .opening userId := by
  cases c with
  | finding passcode => exact .inl (by rw [State.resume, next_row])
  | comparing passcode row =>
    left
    rw [State.resume]
    split <;> rw [next_row]
  | failing failedAttempts lockedUntil => exact .inr (.inl rfl)
  | opening userId => exact .inr (.inr ⟨userId, rfl⟩)

theorem step_lock {s s' : State} {ev : Event} {t : Nat} (hs : Inv verify s) (hok : succeeds s ev = false)
    (h : step verify s ev = some s') (hlock : s.row.lockedUntil = some t) (hnow : s.now < t) :
    s'.row.lockedUntil = some t := by
  cases ev with
  | redeem i passcode =>
    unfold step at h
    dsimp only at h
    split at h
    · cases h
    · cases h
      exact hlock
  | resume i =>
    obtain ⟨c, hget, rfl⟩ := Option.map_eq_some_iff.1 h
    have hcases := @resume_row verify s i c
    rcases hcases with hrow | hw | ⟨userId, rfl⟩
    · exact hrow.trans hlock
    · -- A wrong code on its way has found the shortcut open.
      have hopen : s.Unlocked := by
        have hk := hs.calls i c hget hw
        cases c with
        | comparing passcode row => exact hk.2.2.2.2
        | failing failedAttempts lockedUntil => exact hk.2.2
        | finding passcode => cases hw
        | opening userId => cases hw
      exact absurd (hopen t hlock) (by omega)
    · simp [succeeds, hget] at hok
  | tick ms =>
    cases h
    exact hlock
  | revoke =>
    cases h
    split <;> exact hlock
  | setUserStatus status =>
    cases h
    exact hlock

theorem step_now {s s' : State} {ev : Event} (h : step verify s ev = some s') : s.now ≤ s'.now := by
  cases ev with
  | redeem i passcode =>
    unfold step at h
    dsimp only at h
    split at h
    · cases h
    · cases h
      exact Nat.le_refl _
  | resume i =>
    obtain ⟨c, -, rfl⟩ := Option.map_eq_some_iff.1 h
    cases c with
    | finding passcode => rw [State.resume, next_now]
    | comparing passcode row =>
      rw [State.resume]
      split <;> rw [next_now]
    | failing failedAttempts lockedUntil => rw [State.resume, next_now]
    | opening userId => rw [State.resume, next_now]
  | tick ms =>
    cases h
    exact Nat.le_add_right _ _
  | revoke =>
    cases h
    split <;> exact Nat.le_refl _
  | setUserStatus status =>
    cases h
    exact Nat.le_refl _

/-! ## Brute force -/

/-- While nobody succeeds and wrong codes are let in one by one: at most five of them are compared
between two locks, a lock stands until its time, and no stretch of time sees more than five for each
quarter of an hour and ten besides. -/
theorem passcode_survives {s₀ s : State} {es : List Event} (hinit : Initial s₀)
    (hrun : run (step verify) s₀ es = some s)
    (hok : Meets (step verify) (fun s ev => succeeds s ev = false ∧ oneByOne verify s ev = true) s₀ es) :
    (∀ locks, s.tested.countP (fun x => x.1 = locks) ≤ maxAttempts) ∧
    (∀ es₁ es₂ es₃ s₁ s₂ t, es = es₁ ++ es₂ ++ es₃ → run (step verify) s₀ es₁ = some s₁ →
      run (step verify) s₁ es₂ = some s₂ → s₁.row.lockedUntil = some t → s₂.now < t → s₂.row.lockedUntil = some t) ∧
    ∀ start len,
      (s.tested.filter fun x => start ≤ x.2 ∧ x.2 ≤ start + len).length ≤ maxAttempts * (len / lockMs + 2) := by
  have hinv : Inv verify s := run_inv (fun _ _ _ => step_inv) (initial_inv hinit) hok hrun
  refine ⟨hinv.spaced.few, fun es₁ es₂ es₃ s₁ s₂ t hes h₁ h₂ hlock hnow => ?_, fun start len => ?_⟩
  · rw [hes, List.append_assoc] at hok
    obtain ⟨hok₁, hrest⟩ := meets_append hok h₁
    have hinv₁ : Inv verify s₁ := run_inv (fun _ _ _ => step_inv) (initial_inv hinit) hok₁ h₁
    -- The lock stands in every state of the rest that its time has not come in.
    have hstands := run_inv (I := fun u => Inv verify u ∧ (u.now < t → u.row.lockedUntil = some t))
      (fun u ev u' hu hev h => ⟨step_inv hu.1 hev h, fun hlt => by
        have hbefore := Nat.lt_of_le_of_lt (step_now h) hlt
        exact step_lock hu.1 hev.1 h (hu.2 hbefore) hbefore⟩)
      ⟨hinv₁, fun _ => hlock⟩ (meets_append hrest h₂).1 h₂
    exact hstands.2 hnow
  · refine (hinv.spaced.window (by decide) start len).trans (Nat.mul_le_mul_left _ ?_)
    omega

namespace Example

/-- Codes are compared as they are. -/
def plain (passcode passcodeHash : String) : Bool := passcode == passcodeHash

def shortcut : State where
  row := ⟨"aisha", "402718", 0, none, none, none, .active⟩
  now := 0
  calls := Pool.empty
  tested := []
  locks := 0

/-- Guess `i` from start to end. -/
def guess (i : Nat) : List Event := [.redeem i "111112", .resume i, .resume i, .resume i]

/-- Five guesses one after the other, and a sixth that is refused. -/
def inTurn : List Event := (List.range 5).flatMap guess ++ [.redeem 5 "111112", .resume 5]

/-- One guess is let in, and writes down what it finds after five others have brought a lock. -/
def overlapping : List Event := [.redeem 9 "111112", .resume 9] ++ (List.range 5).flatMap guess

theorem shortcut_initial : Initial shortcut := by
  refine ⟨fun i => rfl, rfl⟩

end Example

open Example in
theorem sixth_refused : ∃ s, run (step plain) shortcut inTurn = some s ∧ s.row.lockedUntil = some lockMs ∧
    s.tested.countP (fun x => x.1 = 0) ≤ maxAttempts := by
  have hrun : (run (step plain) shortcut inTurn).map (·.row.lockedUntil) = some (some lockMs) := by decide
  obtain ⟨s, hs, hlock⟩ := Option.map_eq_some_iff.1 hrun
  exact ⟨s, hs, hlock, (passcode_survives shortcut_initial hs (by decide)).1 0⟩

open Example in
/-- The sixth code is compared while the shortcut is locked, and takes the lock away. -/
theorem lock_erased : ∃ s t, run (step plain) shortcut overlapping = some s ∧
    run (step plain) s [.resume 9, .resume 9] = some t ∧ s.row.lockedUntil = some lockMs ∧ t.now < lockMs ∧
    t.row.lockedUntil = none ∧ t.tested.length = 6 := by
  have hrun : ((run (step plain) shortcut overlapping).bind fun s =>
      (run (step plain) s [.resume 9, .resume 9]).map fun t =>
        (s.row.lockedUntil, t.now, t.row.lockedUntil, t.tested.length)) = some (some lockMs, 0, none, 6) := by decide
  obtain ⟨s, t, hs, ht, hseen⟩ := observed hrun
  simp only [Prod.mk.injEq] at hseen
  obtain ⟨hlock, hnow, herased, htested⟩ := hseen
  exact ⟨s, t, hs, ht, hlock, by rw [hnow]; decide, herased, htested⟩

end Livetich.Auth.QuickAccess
