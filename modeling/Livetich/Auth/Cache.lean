/-
The cache of account states (`AuthCacheService`) over one account: calls of `getState` and changes of
the account interleave call by call of Redis and of the database. A change writes the row and then
drops the key; a reader that has fetched the row before the write may store it after the drop.
-/
import Livetich.Auth.Model
import Livetich.Lib.TransSys

namespace Livetich.Auth

open TransSys

namespace Cache

/-! ## Calls -/

/-- What is changed of an account: its status (`setMemberStatus`, `setUserStatus`), or that its address
is known to be right (`verifyEmail`, `resetPassword`, `verifyUserEmail`). -/
inductive Change
  | status (value : UserStatus)
  | verified
  deriving DecidableEq

def Change.apply : Change → AccountState → AccountState
  | .status value, a => { a with status := value }
  | .verified, a => { a with emailVerified := true }

/-- A call, by what it waits for. A call of `getState` remembers whether it started under a disable that
had completed; a change, whether nothing has enabled the account since its write. -/
inductive Call
  | getting (after : Bool)
  | finding (after : Bool)
  | setting (after : Bool) (account : AccountState)
  | updating (change : Change)
  | deleting (change : Change) (stands : Bool)
  deriving DecidableEq

structure State where
  /-- The account's row; `none` when there is none. -/
  row : Option AccountState
  /-- The value of the account's key in Redis. -/
  cached : Option AccountState
  calls : Pool Call
  /-- A disable has completed, and nothing has enabled the account since its write. -/
  settled : Bool
  /-- What calls of `getState` have returned, each with what it remembered. -/
  answers : List (Bool × Option AccountState)

inductive Event
  | getState (i : Nat)
  | change (i : Nat) (change : Change)
  | resume (i : Nat)
  /-- The key's time to live is over. -/
  | expire
  deriving DecidableEq

/-- The account is enabled: what was known of its disabling is over. -/
def Call.enabled : Call → Call
  | .getting _ => .getting false
  | .finding _ => .finding false
  | .setting _ account => .setting false account
  | .updating change => .updating change
  | .deleting change _ => .deleting change false

/-- Call `i` has returned. -/
def State.answer (s : State) (i : Nat) (after : Bool) (account : Option AccountState) : State :=
  { s with calls := s.calls.put i none, answers := (after, account) :: s.answers }

/-- `user.update`, which fails when there is no such user. -/
def State.update (s : State) (i : Nat) (change : Change) : State :=
  match s.row with
  | none => { s with calls := s.calls.put i none }
  | some a =>
    let s := { s with row := some (change.apply a) }
    if change = .status .active then
      { s with calls := (s.calls.map Call.enabled).put i (some (.deleting change true)), settled := false }
    else { s with calls := s.calls.put i (some (.deleting change true)) }

def State.resume (s : State) (i : Nat) : Call → State
  | .getting after =>
    match s.cached with
    | some a => s.answer i after (some a)
    | none => { s with calls := s.calls.put i (some (.finding after)) }
  | .finding after =>
    match s.row with
    | none => s.answer i after none
    | some a => { s with calls := s.calls.put i (some (.setting after a)) }
  | .setting after a => { s.answer i after (some a) with cached := some a }
  | .updating change => s.update i change
  | .deleting change stands =>
    { s with
      cached := none, calls := s.calls.put i none,
      settled := s.settled || (stands && change == .status .disabled) }

def step (s : State) : Event → Option State
  | .getState i =>
    if (s.calls.get i).isSome then none
    else some { s with calls := s.calls.put i (some (.getting s.settled)) }
  | .change i change =>
    if (s.calls.get i).isSome then none else some { s with calls := s.calls.put i (some (.updating change)) }
  | .resume i => (s.calls.get i).map (s.resume i)
  | .expire => some { s with cached := none }

/-! ## The condition -/

/-- No row that was fetched before a disable is stored after the disable has completed. -/
def storesFresh (s : State) : Event → Bool
  | .resume i =>
    match s.calls.get i with
    | some (.setting _ a) => !s.settled || a.status == .disabled
    | _ => true
  | _ => true

/-- Once a disable has completed, what is cached says so. -/
def State.Silent (s : State) : Prop :=
  s.settled = true → ∀ a ∈ s.cached, a.status = .disabled

/-- Every call that started after a completed disable has returned a disabled account. -/
def State.Refused (s : State) : Prop :=
  ∀ x ∈ s.answers, x.1 = true → ∃ a, x.2 = some a ∧ a.status = .disabled

/-! ## What the calls know -/

/-- A call that started after a completed disable goes on under it, with the row of a disabled account. -/
def Call.Knows (s : State) : Call → Prop
  | .getting after | .finding after => after = true → s.settled = true
  | .setting after a => after = true → s.settled = true ∧ a.status = .disabled
  | .updating _ => True
  | .deleting change stands => stands = true → change = .status .disabled → ∃ a, s.row = some a ∧ a.status = .disabled

structure Inv (s : State) : Prop where
  row : s.settled = true → ∃ a, s.row = some a ∧ a.status = .disabled
  silent : s.Silent
  calls : ∀ i c, s.calls.get i = some c → c.Knows s
  refused : s.Refused

/-- No call is under way, none has been answered, and no disable has completed. -/
structure Initial (s : State) : Prop where
  calls : ∀ i, s.calls.get i = none
  settled : s.settled = false
  answers : s.answers = []

theorem initial_inv {s : State} (h : Initial s) : Inv s := by
  refine ⟨fun hs => ?_, fun hs => ?_, fun i c hc => ?_, fun x hx => ?_⟩
  · rw [h.settled] at hs
    cases hs
  · rw [h.settled] at hs
    cases hs
  · rw [h.calls] at hc
    cases hc
  · rw [h.answers] at hx
    cases hx

/-- What a call knows depends on the row and on whether a disable has completed. -/
theorem Call.Knows.mono {s t : State} {c : Call} (h : c.Knows s) (hsettled : s.settled = true → t.settled = true)
    (hrow : (∃ a, s.row = some a ∧ a.status = .disabled) → ∃ a, t.row = some a ∧ a.status = .disabled) : c.Knows t := by
  cases c with
  | getting after => exact fun ha => hsettled (h ha)
  | finding after => exact fun ha => hsettled (h ha)
  | setting after a => exact fun ha => ⟨hsettled (h ha).1, (h ha).2⟩
  | updating change => trivial
  | deleting change stands => exact fun hs hc => hrow (h hs hc)

/-- After the account is enabled no call knows of a disable. -/
theorem enabled_knows (s : State) (c : Call) : c.enabled.Knows s := by
  cases c with
  | updating change => trivial
  | getting after => rintro ⟨⟩
  | finding after => rintro ⟨⟩
  | setting after a => rintro ⟨⟩
  | deleting change stands => rintro ⟨⟩

/-! ## What the steps keep -/

/-- Calls come and go while the row, the key and what is known stay. -/
theorem Inv.calls_only {s t : State} (hs : Inv s) (hrow : t.row = s.row) (hcached : t.cached = s.cached)
    (hsettled : t.settled = s.settled) (hanswers : t.answers = s.answers)
    (hcalls : ∀ i c, t.calls.get i = some c → s.calls.get i = some c ∨ c.Knows s) : Inv t := by
  have hknows : ∀ c : Call, c.Knows s → c.Knows t := fun c hc =>
    hc.mono (fun h => hsettled.trans h) fun h => hrow ▸ h
  refine ⟨fun h => hrow ▸ hs.row (hsettled ▸ h), fun h => ?_, fun i c hc => ?_, fun x hx => ?_⟩
  · rw [hcached]
    exact hs.silent (hsettled ▸ h)
  · rcases hcalls i c hc with hc | hc
    · exact hknows c (hs.calls i c hc)
    · exact hknows c hc
  · rw [hanswers] at hx
    exact hs.refused x hx

/-- A call that started after a completed disable returns a disabled account. -/
theorem Inv.answer {s : State} (hs : Inv s) (i : Nat) {after : Bool} {account : Option AccountState}
    (h : after = true → ∃ a, account = some a ∧ a.status = .disabled) : Inv (s.answer i after account) := by
  refine ⟨hs.row, hs.silent, fun j c hc => ?_, fun x hx => ?_⟩
  · rcases Pool.get_put_cases hc with ⟨-, hnone⟩ | ⟨-, hc⟩
    · cases hnone
    · exact (hs.calls j c hc).mono id id
  · rcases List.mem_cons.1 hx with rfl | hx
    · exact h
    · exact hs.refused x hx

theorem update_inv {s : State} (hs : Inv s) (i : Nat) (change : Change) : Inv (s.update i change) := by
  unfold State.update
  cases hrow : s.row with
  | none =>
    refine hs.calls_only hrow.symm rfl rfl rfl fun j c hc => ?_
    rcases Pool.get_put_cases hc with ⟨-, hnone⟩ | ⟨-, hc⟩
    · cases hnone
    · exact .inl hc
  | some a =>
    simp only
    by_cases henable : change = .status .active
    · rw [if_pos henable]
      refine ⟨fun h => (by cases h), fun h => (by cases h), fun j c hc => ?_, hs.refused⟩
      rcases Pool.get_put_cases hc with ⟨-, hnew⟩ | ⟨-, hc⟩
      · cases hnew
        intro _ hdisable
        rw [henable] at hdisable
        cases hdisable
      · rw [Pool.get_map] at hc
        obtain ⟨d, -, rfl⟩ := Option.map_eq_some_iff.1 hc
        exact enabled_knows _ d
    · rw [if_neg henable]
      -- Any other change leaves a disabled account disabled.
      have hdisabled : a.status = .disabled → (change.apply a).status = .disabled := by
        intro ha
        cases change with
        | verified => exact ha
        | status value =>
          cases value with
          | disabled => rfl
          | active => exact absurd rfl henable
      have hkeep : (∃ b, s.row = some b ∧ b.status = .disabled) →
          ∃ b, some (change.apply a) = some b ∧ b.status = .disabled := by
        rintro ⟨b, hb, hstatus⟩
        rw [hrow] at hb
        cases hb
        exact ⟨_, rfl, hdisabled hstatus⟩
      refine ⟨fun h => hkeep (hs.row h), hs.silent, fun j c hc => ?_, hs.refused⟩
      rcases Pool.get_put_cases hc with ⟨-, hnew⟩ | ⟨-, hc⟩
      · cases hnew
        rintro - rfl
        exact ⟨_, rfl, rfl⟩
      · exact (hs.calls j c hc).mono id hkeep

theorem resume_inv {s : State} (hs : Inv s) {i : Nat} {c : Call} (hget : s.calls.get i = some c)
    (hok : storesFresh s (.resume i) = true) : Inv (s.resume i c) := by
  have hc := hs.calls i c hget
  cases c with
  | getting after =>
    unfold State.resume
    cases hcached : s.cached with
    | some a => exact hs.answer i fun hafter => ⟨a, rfl, hs.silent (hc hafter) a hcached⟩
    | none =>
      refine hs.calls_only rfl hcached.symm rfl rfl fun j d hd => ?_
      rcases Pool.get_put_cases hd with ⟨-, hnew⟩ | ⟨-, hd⟩
      · cases hnew
        exact .inr hc
      · exact .inl hd
  | finding after =>
    unfold State.resume
    cases hrow : s.row with
    | none =>
      refine hs.answer i fun hafter => ?_
      obtain ⟨a, ha, -⟩ := hs.row (hc hafter)
      rw [hrow] at ha
      cases ha
    | some a =>
      refine hs.calls_only hrow.symm rfl rfl rfl fun j d hd => ?_
      rcases Pool.get_put_cases hd with ⟨-, hnew⟩ | ⟨-, hd⟩
      · cases hnew
        refine .inr fun hafter => ⟨hc hafter, ?_⟩
        obtain ⟨b, hb, hstatus⟩ := hs.row (hc hafter)
        rw [hrow] at hb
        cases hb
        exact hstatus
      · exact .inl hd
  | setting after a =>
    have hanswer : Inv (s.answer i after (some a)) := hs.answer i fun hafter => ⟨a, rfl, (hc hafter).2⟩
    refine ⟨hanswer.row, fun h b hb => ?_, fun j d hd => (hanswer.calls j d hd).mono id id, hanswer.refused⟩
    cases hb
    simp only [storesFresh, hget, Bool.or_eq_true, Bool.not_eq_true', beq_iff_eq] at hok
    rcases hok with hok | hok
    · exact absurd (show s.settled = true from h) (by rw [hok]; exact Bool.false_ne_true)
    · exact hok
  | updating change => exact update_inv hs i change
  | deleting change stands =>
    have hsettled : (s.settled || (stands && change == .status .disabled)) = true →
        ∃ a, s.row = some a ∧ a.status = .disabled := by
      intro h
      rcases Bool.or_eq_true_iff.1 h with h | h
      · exact hs.row h
      · obtain ⟨hstands, hchange⟩ := Bool.and_eq_true_iff.1 h
        exact hc hstands (beq_iff_eq.1 hchange)
    refine ⟨hsettled, fun h a ha => (by cases ha), fun j d hd => ?_, hs.refused⟩
    rcases Pool.get_put_cases hd with ⟨-, hnone⟩ | ⟨-, hd⟩
    · cases hnone
    · refine (hs.calls j d hd).mono (fun h => ?_) id
      show (s.settled || _) = true
      rw [h, Bool.true_or]

theorem step_inv {s s' : State} {ev : Event} (hs : Inv s) (hok : storesFresh s ev = true) (h : step s ev = some s') :
    Inv s' := by
  cases ev with
  | getState i =>
    unfold step at h
    dsimp only at h
    split at h
    · cases h
    · cases h
      refine hs.calls_only rfl rfl rfl rfl fun j c hc => ?_
      rcases Pool.get_put_cases hc with ⟨-, hnew⟩ | ⟨-, hc⟩
      · cases hnew
        exact .inr id
      · exact .inl hc
  | change i change =>
    unfold step at h
    dsimp only at h
    split at h
    · cases h
    · cases h
      refine hs.calls_only rfl rfl rfl rfl fun j c hc => ?_
      rcases Pool.get_put_cases hc with ⟨-, hnew⟩ | ⟨-, hc⟩
      · cases hnew
        exact .inr trivial
      · exact .inl hc
  | resume i =>
    obtain ⟨c, hc, rfl⟩ := Option.map_eq_some_iff.1 h
    exact resume_inv hs hc hok
  | expire =>
    cases h
    refine ⟨hs.row, fun h a ha => (by cases ha), fun j c hc => (hs.calls j c hc).mono id id, hs.refused⟩

/-- A stale row that is stored is what the next caller is given. -/
theorem step_stale {s s' : State} {ev : Event} (hbad : storesFresh s ev = false) (h : step s ev = some s') :
    ¬ s'.Silent := by
  cases ev with
  | resume i =>
    obtain ⟨c, hc, rfl⟩ := Option.map_eq_some_iff.1 h
    cases c with
    | setting after a =>
      simp only [storesFresh, hc, Bool.or_eq_false_iff, Bool.not_eq_false', beq_eq_false_iff_ne] at hbad
      exact fun hsilent => hbad.2 (hsilent hbad.1 a rfl)
    | _ => simp [storesFresh, hc] at hbad
  | _ => cases hbad

/-! ## The cache does not outlive a disable -/

/-- Every call that starts after a disable has completed is told of it, and the key never holds
anything else from then on, exactly when no row fetched before a disable is stored after it. -/
theorem cache_follows_disable {s₀ s : State} {es : List Event} (hinit : Initial s₀) (hrun : run step s₀ es = some s) :
    (s.Refused ∧ ∀ es₁ es₂ s₁, es = es₁ ++ es₂ → run step s₀ es₁ = some s₁ → s₁.Silent) ↔
      Meets step (fun s ev => storesFresh s ev = true) s₀ es := by
  have hiff := meets_iff_of_keeps (fun _ _ _ => step_inv) (fun _ hu => hu.silent) (fun u ev u' _ h hsilent => ?_)
    (initial_inv hinit) hrun
  · refine ⟨fun h => hiff.2 h.2, fun hok => ⟨?_, hiff.1 hok⟩⟩
    exact (run_inv (fun _ _ _ => step_inv) (initial_inv hinit) hok hrun).refused
  · by_contra hbad
    exact step_stale (Bool.eq_false_iff.2 hbad) h hsilent

namespace Example

def account : State := ⟨some ⟨.active, true⟩, none, Pool.empty, false, []⟩

/-- A reader that comes after the disable, and one that has read the key before it. -/
def told : List Event :=
  [.getState 0, .resume 0, .change 1 (.status .disabled), .resume 1, .resume 0, .resume 1, .getState 2, .resume 2,
    .resume 2, .resume 2]

/-- A reader fetches the row, the account is disabled, and then the reader stores what it has. -/
def outlived : List Event :=
  [.getState 0, .resume 0, .resume 0, .change 1 (.status .disabled), .resume 1, .resume 1, .resume 0, .getState 2,
    .resume 2]

theorem account_initial : Initial account := by
  refine ⟨fun i => rfl, rfl, rfl⟩

end Example

open Example in
theorem reader_told : ∃ s, run step account told = some s ∧ s.answers = [(true, some ⟨.disabled, true⟩)] ∧
    s.Refused := by
  have hrun : (run step account told).map (·.answers) = some [(true, some ⟨.disabled, true⟩)] := by decide
  obtain ⟨s, hs, hanswers⟩ := Option.map_eq_some_iff.1 hrun
  exact ⟨s, hs, hanswers, ((cache_follows_disable account_initial hs).2 (by decide)).1⟩

open Example in
/-- The key holds the active account after the disable has completed, and the next caller is given it. -/
theorem stale_row_answers : ∃ s, run step account outlived = some s ∧ s.settled = true ∧
    (true, some ⟨.active, true⟩) ∈ s.answers ∧ ¬ s.Refused := by
  have hrun : (run step account outlived).map (fun s => (s.settled, s.answers)) =
      some (true, [(true, some ⟨.active, true⟩), (false, some ⟨.active, true⟩)]) := by decide
  obtain ⟨s, hs, hseen⟩ := Option.map_eq_some_iff.1 hrun
  obtain ⟨hsettled, hanswers⟩ := Prod.mk.injEq .. ▸ hseen
  have hmem : (true, some ⟨.active, true⟩) ∈ s.answers := by
    rw [hanswers]
    exact List.mem_cons_self
  refine ⟨s, hs, hsettled, hmem, fun hrefused => ?_⟩
  obtain ⟨a, ha, hstatus⟩ := hrefused _ hmem rfl
  cases ha
  cases hstatus

end Cache

end Livetich.Auth
