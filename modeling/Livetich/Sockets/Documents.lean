/-
The sockets of one session's document, as the board and the code gateway keep them: `onJoin`, `onLeave` and
`handleDisconnect` as tasks that run from one awaited call to the next, over a document service that counts its
clients. Every entry they touch belongs to one session, so one session is the whole state: what `handleDisconnect`
does for the other sessions of its socket is time that passes before it comes to this one.

What the account, the session row and the enrolment say is one answer to `onJoin`. The task with number `i` makes
its calls of the service under that number.
-/
import Mathlib.Data.Int.Basic
import Livetich.Lib.TransSys

namespace Livetich.Sockets.Documents

open TransSys

/-! ## Document services -/

/-- A service that keeps a document while clients hold it. -/
structure Service where
  State : Type
  Update : Type
  /-- What happens in the service besides its calls: a load or a put goes on or fails. -/
  Event : Type
  init : State
  /-- A call of `retain`: counted in, or waiting for the load. -/
  retain : State → Nat → State
  /-- A call that waits for the load goes on: counted in, or rejected with the load. -/
  enter : State → Nat → Option (State × Bool)
  release : State → Nat → State
  update : State → Update → State
  /-- The flush timer reaches the session. -/
  tick : State → Nat → State
  step : State → Event → Option State
  /-- The number is that of a call in flight. -/
  taken : State → Nat → Bool
  /-- A retain or a release is in flight. -/
  calls : State → Bool
  /-- The counter of the registered entry. -/
  clients : State → Option Int
  /-- The registered document has been destroyed. -/
  destroyed : State → Bool
  /-- The registered document is not stored as it is. -/
  unsaved : State → Bool
  /-- How often `release` has reported the room empty. -/
  reports : State → Nat
  /-- When a release, and a step of the service, takes no entry away from anyone. -/
  safeRelease : State → Bool
  safeStep : State → Event → Bool

/-! ## Sockets and handlers -/

structure Sock where
  connected : Bool
  /-- `sessionIds` has the session. -/
  joined : Bool
  deriving DecidableEq

def Sock.new : Sock := ⟨true, false⟩

/-- A handler in flight, by the call it waits for. -/
inductive Task
  /-- `onJoin` waits for `authReady`. -/
  | joinAuth (c : Nat)
  /-- For the session row and what else decides the join. -/
  | joinChecks (c : Nat)
  /-- For the load in `docs.retain`. -/
  | joinRetain (c : Nat)
  /-- For `docs.retain`, which has counted it in. -/
  | joinAdd (c : Nat)
  /-- `onLeave` has left the room and is to call `docs.release`. -/
  | leaveRelease
  /-- `handleDisconnect` is to call `docs.release`. -/
  | dropRelease
  deriving DecidableEq

variable (V : Service)

structure State where
  docs : V.State
  sockets : Pool Sock
  tasks : Pool Task

def init : State V := ⟨V.init, Pool.empty, Pool.empty⟩

variable {V}

namespace State

/-- Task `i` goes on as `t`, or ends. -/
def goto (s : State V) (i : Nat) (t : Option Task) : State V := { s with tasks := s.tasks.put i t }

def setSock (s : State V) (c : Nat) (k : Sock) : State V := { s with sockets := s.sockets.put c (some k) }

/-- Neither a handler nor a call of the service has the number. -/
def idle (s : State V) (i : Nat) : Bool := (s.tasks.get i).isNone && !V.taken s.docs i

end State

/-- `onJoin` once it is allowed: `docs.retain`. -/
def retain (s : State V) (i c : Nat) : State V :=
  let docs := V.retain s.docs i
  { s with docs }.goto i (some (if V.taken docs i then .joinRetain c else .joinAdd c))

def release (s : State V) (i : Nat) : State V := { s with docs := V.release s.docs i }.goto i none

/-- The next step of task `t`, numbered `i`; `none` while what it waits for is pending. -/
def resume (s : State V) (i : Nat) (allowed : Bool) : Task → Option (State V)
  | .joinAuth c =>
    -- a socket that has joined is sent the state again, or passed over
    some (if (s.sockets.get c).any (·.joined) then s.goto i none else s.goto i (some (.joinChecks c)))
  | .joinChecks c => some (if allowed then retain s i c else s.goto i none)
  | .joinRetain c => (V.enter s.docs i).map fun p =>
    { s with docs := p.1 }.goto i (if p.2 then some (.joinAdd c) else none)
  | .joinAdd c => some <| match s.sockets.get c with
    | some k => (s.setSock c { k with joined := true }).goto i none
    | none => s.goto i none
  | .leaveRelease | .dropRelease => some (release s i)

/-! ## Steps -/

variable (V) in
inductive Event
  | connect (c : Nat)
  | join (i c : Nat)
  | leave (i c : Nat)
  | disconnect (i c : Nat)
  /-- An update of a socket that has joined. -/
  | update (c : Nat) (u : V.Update)
  | tick (i : Nat)
  | resume (i : Nat) (allowed : Bool)
  | service (e : V.Event)

def leave (s : State V) (i c : Nat) (k : Sock) : State V :=
  if k.joined then (s.setSock c { k with joined := false }).goto i (some .leaveRelease) else s

def disconnect (s : State V) (i c : Nat) (k : Sock) : State V :=
  let s := s.setSock c { k with connected := false }
  if k.joined then s.goto i (some .dropRelease) else s

def step (s : State V) : Event V → Option (State V)
  | .connect c => if s.sockets.get c = none then some (s.setSock c Sock.new) else none
  | .join i c =>
    if s.idle i then ((s.sockets.get c).filter (·.connected)).map fun _ => s.goto i (some (.joinAuth c)) else none
  | .leave i c => if s.idle i then ((s.sockets.get c).filter (·.connected)).map (leave s i c) else none
  | .disconnect i c => if s.idle i then ((s.sockets.get c).filter (·.connected)).map (disconnect s i c) else none
  | .update c u => ((s.sockets.get c).filter fun k => k.connected && k.joined).map fun _ =>
    { s with docs := V.update s.docs u }
  | .tick i => if s.idle i then some { s with docs := V.tick s.docs i } else none
  | .resume i allowed => (s.tasks.get i).bind (resume s i allowed)
  | .service e => (V.step s.docs e).map fun docs => { s with docs }

/-! ## What a step does -/

/-- What a step leaves, and the guard under which it does. -/
inductive Outcome (s : State V) : Event V → State V → Prop
  | connect {c : Nat} (hfresh : s.sockets.get c = none) : Outcome s (.connect c) (s.setSock c Sock.new)
  | join {i c : Nat} (hidle : s.idle i = true) : Outcome s (.join i c) (s.goto i (some (.joinAuth c)))
  | leave {i c : Nat} {k : Sock} (hidle : s.idle i = true) (hk : s.sockets.get c = some k)
      (hconnected : k.connected = true) (hjoined : k.joined = true) :
      Outcome s (.leave i c) ((s.setSock c { k with joined := false }).goto i (some .leaveRelease))
  | stay {i c : Nat} {k : Sock} (hk : s.sockets.get c = some k) (hjoined : k.joined = false) : Outcome s (.leave i c) s
  | drop {i c : Nat} {k : Sock} (hidle : s.idle i = true) (hk : s.sockets.get c = some k)
      (hconnected : k.connected = true) (hjoined : k.joined = true) :
      Outcome s (.disconnect i c) ((s.setSock c { k with connected := false }).goto i (some .dropRelease))
  | close {i c : Nat} {k : Sock} (hidle : s.idle i = true) (hk : s.sockets.get c = some k)
      (hjoined : k.joined = false) : Outcome s (.disconnect i c) (s.setSock c { k with connected := false })
  | update (c : Nat) (u : V.Update) : Outcome s (.update c u) { s with docs := V.update s.docs u }
  | tick {i : Nat} (hidle : s.idle i = true) : Outcome s (.tick i) { s with docs := V.tick s.docs i }
  | known {i c : Nat} {allowed : Bool} (ht : s.tasks.get i = some (.joinAuth c)) :
      Outcome s (.resume i allowed) (s.goto i none)
  | check {i c : Nat} {allowed : Bool} (ht : s.tasks.get i = some (.joinAuth c)) :
      Outcome s (.resume i allowed) (s.goto i (some (.joinChecks c)))
  | refuse {i c : Nat} (ht : s.tasks.get i = some (.joinChecks c)) : Outcome s (.resume i false) (s.goto i none)
  | retain {i c : Nat} (ht : s.tasks.get i = some (.joinChecks c)) : Outcome s (.resume i true) (retain s i c)
  | enter {i c : Nat} {allowed : Bool} {p : V.State × Bool} (ht : s.tasks.get i = some (.joinRetain c))
      (hp : V.enter s.docs i = some p) :
      Outcome s (.resume i allowed) ({ s with docs := p.1 }.goto i (if p.2 then some (.joinAdd c) else none))
  | add {i c : Nat} {allowed : Bool} {k : Sock} (ht : s.tasks.get i = some (.joinAdd c))
      (hk : s.sockets.get c = some k) :
      Outcome s (.resume i allowed) ((s.setSock c { k with joined := true }).goto i none)
  | lost {i c : Nat} {allowed : Bool} (ht : s.tasks.get i = some (.joinAdd c)) (hk : s.sockets.get c = none) :
      Outcome s (.resume i allowed) (s.goto i none)
  | release {i : Nat} {allowed : Bool} {t : Task} (ht : s.tasks.get i = some t)
      (hrelease : t = .leaveRelease ∨ t = .dropRelease) : Outcome s (.resume i allowed) (release s i)
  | service {e : V.Event} {d : V.State} (hd : V.step s.docs e = some d) : Outcome s (.service e) { s with docs := d }

theorem resume_outcome {s s' : State V} {i : Nat} {allowed : Bool} {t : Task} (ht : s.tasks.get i = some t)
    (hs : resume s i allowed t = some s') : Outcome s (.resume i allowed) s' := by
  cases t with
  | joinAuth c =>
    simp only [resume, Option.some.injEq] at hs
    subst hs
    split
    · exact .known ht
    · exact .check ht
  | joinChecks c =>
    simp only [resume, Option.some.injEq] at hs
    subst hs
    cases allowed with
    | false => exact .refuse ht
    | true => exact .retain ht
  | joinRetain c =>
    obtain ⟨p, hp, rfl⟩ := Option.map_eq_some_iff.1 hs
    exact .enter ht hp
  | joinAdd c =>
    simp only [resume, Option.some.injEq] at hs
    subst hs
    cases hk : s.sockets.get c with
    | none => exact .lost ht hk
    | some k => exact .add ht hk
  | leaveRelease =>
    cases hs
    exact .release ht (.inl rfl)
  | dropRelease =>
    cases hs
    exact .release ht (.inr rfl)

theorem step_outcome {s s' : State V} {e : Event V} (hs : step s e = some s') : Outcome s e s' := by
  cases e with
  | connect c =>
    unfold step at hs
    simp only [Option.ite_none_right_eq_some, Option.some.injEq] at hs
    obtain ⟨hfresh, rfl⟩ := hs
    exact .connect hfresh
  | join i c =>
    unfold step at hs
    simp only [Option.ite_none_right_eq_some, Option.map_eq_some_iff] at hs
    obtain ⟨hidle, k, -, rfl⟩ := hs
    exact .join hidle
  | leave i c =>
    unfold step at hs
    simp only [Option.ite_none_right_eq_some, Option.map_eq_some_iff] at hs
    obtain ⟨hidle, k, hk, rfl⟩ := hs
    obtain ⟨hk, hconnected⟩ := Option.filter_eq_some_iff.1 hk
    unfold leave
    split
    · next hjoined => exact .leave hidle hk hconnected hjoined
    · next hjoined => exact .stay hk (Bool.eq_false_iff.2 hjoined)
  | disconnect i c =>
    unfold step at hs
    simp only [Option.ite_none_right_eq_some, Option.map_eq_some_iff] at hs
    obtain ⟨hidle, k, hk, rfl⟩ := hs
    obtain ⟨hk, hconnected⟩ := Option.filter_eq_some_iff.1 hk
    unfold disconnect
    dsimp only
    split
    · next hjoined => exact .drop hidle hk hconnected hjoined
    · next hjoined => exact .close hidle hk (Bool.eq_false_iff.2 hjoined)
  | update c u =>
    obtain ⟨k, -, rfl⟩ := Option.map_eq_some_iff.1 hs
    exact .update c u
  | tick i =>
    unfold step at hs
    simp only [Option.ite_none_right_eq_some, Option.some.injEq] at hs
    obtain ⟨hidle, rfl⟩ := hs
    exact .tick hidle
  | resume i allowed =>
    obtain ⟨t, ht, hs⟩ := Option.bind_eq_some_iff.1 hs
    exact resume_outcome ht hs
  | service e =>
    obtain ⟨d, hd, rfl⟩ := Option.map_eq_some_iff.1 hs
    exact .service hd

/-! ## When the counter keeps up -/

/-- The socket of a join that is counted in, or will be, and has not joined yet. -/
def Task.entering : Task → Option Nat
  | .joinRetain c | .joinAdd c => some c
  | _ => none

/-- A join is counted in for a connected socket that has not joined and has no other join counted in; no socket is
lost while a join of it is counted in; and the service takes no entry away from anyone. -/
def countsKept (s : State V) : Event V → Bool
  | .disconnect i c => s.tasks.vacant Task.entering i c
  | .resume i allowed => match s.tasks.get i with
    | some (.joinChecks c) => !allowed ||
      ((s.sockets.get c).any fun k => k.connected && !k.joined) && s.tasks.vacant Task.entering i c
    | some .leaveRelease | some .dropRelease => V.safeRelease s.docs
    | _ => true
  | .service e => V.safeStep s.docs e
  | _ => true

/-! ## The property -/

def Sock.active (k : Sock) : Bool := k.connected && k.joined

/-- The connected sockets whose `sessionIds` has the session. -/
def joined (s : State V) : Nat := s.sockets.count Sock.active

/-- No handler is in flight. -/
def AtRest (s : State V) : Prop := s.tasks.entries = [] ∧ V.calls s.docs = false

structure Matches (s : State V) : Prop where
  counted : AtRest s → ∀ n, V.clients s.docs = some n → n = joined s
  /-- A session with a socket has a document. -/
  alive : 0 < joined s → V.clients s.docs ≠ none ∧ V.destroyed s.docs = false
  gone : AtRest s → joined s = 0 → V.unsaved s.docs = false → V.clients s.docs = none

/-- A step in which `release` reports the room empty leaves no socket in it. -/
def ReportsTrue (s s' : State V) : Prop := V.reports s'.docs ≠ V.reports s.docs → joined s' = 0

/-! ## Services that count -/

/-- What a call or an event of a service, number `i` apart, leaves. -/
structure Effect (d d' : V.State) (i : Nat) : Prop where
  taken : ∀ j, j ≠ i → V.taken d' j = true → V.taken d j = true
  reports : V.reports d' = V.reports d ∨ V.clients d' = none ∨ V.clients d' = some 0

variable (V) in
/-- The service counts its clients right, as long as what it does is safe; `I` is its invariant. -/
structure Sound (I : V.State → Prop) : Prop where
  init : I V.init ∧ V.clients V.init = none
  retain : ∀ d i, I d → V.taken d i = false → I (V.retain d i) ∧ Effect d (V.retain d i) i ∧
    (V.taken (V.retain d i) i = true ∧ V.clients (V.retain d i) = V.clients d ∨
      V.taken (V.retain d i) i = false ∧ ∃ n, V.clients d = some n ∧ V.clients (V.retain d i) = some (n + 1))
  enter : ∀ d i p, I d → V.enter d i = some p → I p.1 ∧ Effect d p.1 i ∧ V.taken p.1 i = false ∧
    if p.2 then ∃ n, V.clients d = some n ∧ V.clients p.1 = some (n + 1) else V.clients p.1 = V.clients d
  release : ∀ d i n, I d → V.taken d i = false → V.safeRelease d = true → V.clients d = some n → 0 < n →
    I (V.release d i) ∧ Effect d (V.release d i) i ∧
      (V.clients (V.release d i) = some (n - 1) ∨ n = 1 ∧ V.clients (V.release d i) = none)
  update : ∀ d u i, I d → I (V.update d u) ∧ Effect d (V.update d u) i ∧ V.clients (V.update d u) = V.clients d ∧
    V.taken (V.update d u) i = V.taken d i
  tick : ∀ d i, I d → V.taken d i = false →
    I (V.tick d i) ∧ Effect d (V.tick d i) i ∧ V.clients (V.tick d i) = V.clients d
  step : ∀ d e d', I d → V.safeStep d e = true → V.step d e = some d' → I d' ∧
    (∀ j, V.taken d' j = true → V.taken d j = true) ∧
    (V.reports d' = V.reports d ∨ V.clients d' = none ∨ V.clients d' = some 0) ∧
    (V.clients d' = V.clients d ∨ V.clients d = none ∧ V.clients d' = some 0 ∨
      V.clients d = some 0 ∧ V.clients d' = none)
  alive : ∀ d, I d → V.destroyed d = false
  left : ∀ d, I d → V.calls d = false → V.clients d = some 0 → V.unsaved d = true

/-! ## The invariant -/

/-- The task holds a count of its own: a join counted in, or a release owed. -/
def Task.holds : Task → Bool
  | .joinAdd _ | .leaveRelease | .dropRelease => true
  | _ => false

/-- The sockets and handlers that are counted in. -/
def holders (s : State V) : Nat := joined s + s.tasks.count Task.holds

def Balanced (clients : Option Int) (n : Nat) : Prop := clients = some (n : Int) ∨ clients = none ∧ n = 0

structure Inv (I : V.State → Prop) (s : State V) : Prop where
  service : I s.docs
  balance : Balanced (V.clients s.docs) (holders s)
  entering : ∀ i t c, s.tasks.get i = some t → t.entering = some c →
    ∃ k, s.sockets.get c = some k ∧ k.connected = true ∧ k.joined = false
  single : s.tasks.Exclusive Task.entering
  /-- A handler that waits for no load has no call of the service in flight. -/
  numbers : ∀ i t, s.tasks.get i = some t → (∀ c, t ≠ .joinRetain c) → V.taken s.docs i = false

theorem holders_goto (s : State V) (i : Nat) (t : Option Task) :
    holders (s.goto i t) + Pool.weight Task.holds (s.tasks.get i) = holders s + Pool.weight Task.holds t := by
  have := Pool.count_put s.tasks Task.holds i t
  have hjoined : joined (s.goto i t) = joined s := rfl
  have htasks : (s.goto i t).tasks = s.tasks.put i t := rfl
  unfold holders
  rw [hjoined, htasks]
  omega

theorem get_setSock_of_ne {s : State V} {c d : Nat} (k : Sock) (h : d ≠ c) :
    (s.setSock c k).sockets.get d = s.sockets.get d :=
  Pool.get_put_of_ne h

theorem joined_setSock (s : State V) (c : Nat) (k : Sock) :
    joined (s.setSock c k) + Pool.weight Sock.active (s.sockets.get c) = joined s + k.active.toNat :=
  Pool.count_put s.sockets Sock.active c (some k)

theorem holders_setSock (s : State V) (c : Nat) (k : Sock) :
    holders (s.setSock c k) + Pool.weight Sock.active (s.sockets.get c) = holders s + k.active.toNat := by
  have := joined_setSock s c k
  have htasks : (s.setSock c k).tasks = s.tasks := rfl
  unfold holders
  rw [htasks]
  omega

variable {I : V.State → Prop}

/-- A step of task `i`, with what becomes of the counter worked out. -/
theorem Inv.move {s s' : State V} {i : Nat} {t : Option Task} (h : Inv I s) (hservice : I s'.docs)
    (heffect : Effect s.docs s'.docs i) (htasks : s'.tasks = s.tasks.put i t)
    (hbalance : Balanced (V.clients s'.docs) (holders s'))
    (hsockets : ∀ j u c, j ≠ i → s.tasks.get j = some u → u.entering = some c →
      s'.sockets.get c = s.sockets.get c)
    (hentering : ∀ u c, t = some u → u.entering = some c → s.tasks.Vacant Task.entering i c ∧
      ∃ k, s'.sockets.get c = some k ∧ k.connected = true ∧ k.joined = false)
    (hnumber : ∀ u, t = some u → (∀ c, u ≠ .joinRetain c) → V.taken s'.docs i = false) : Inv I s' := by
  have hget : ∀ {j u}, s'.tasks.get j = some u → (j = i ∧ t = some u) ∨ (j ≠ i ∧ s.tasks.get j = some u) := by
    intro j u hj
    rw [htasks, Pool.get_put] at hj
    exact Slots.put_eq_some hj
  refine ⟨hservice, hbalance, fun j u c hj hc => ?_, ?_, fun j u hj hu => ?_⟩
  · rcases hget hj with ⟨rfl, hnew⟩ | ⟨hji, hold⟩
    · exact (hentering u c hnew hc).2
    · rw [hsockets j u c hji hold hc]
      exact h.entering j u c hold hc
  · rw [htasks]
    refine h.single.put i fun c hc => ?_
    obtain ⟨u, hu, hc⟩ := Option.bind_eq_some_iff.1 hc
    exact (hentering u c hu hc).1
  · rcases hget hj with ⟨rfl, hnew⟩ | ⟨hji, hold⟩
    · exact hnumber u hnew hu
    · refine Bool.eq_false_iff.2 fun htaken => ?_
      have hfree := h.numbers j u hold hu
      rw [heffect.taken j hji htaken] at hfree
      cases hfree

theorem Effect.refl (d : V.State) (i : Nat) : Effect d d i := ⟨fun _ _ h => h, .inl rfl⟩

/-- A step of the service alone. -/
theorem Inv.docs {s : State V} {d : V.State} (h : Inv I s) (hservice : I d)
    (htaken : ∀ j t, s.tasks.get j = some t → V.taken d j = true → V.taken s.docs j = true)
    (hbalance : Balanced (V.clients d) (holders s)) : Inv I { s with docs := d } := by
  refine ⟨hservice, hbalance, h.entering, h.single, fun j u hj hu => ?_⟩
  refine Bool.eq_false_iff.2 fun htrue => ?_
  have hfree := h.numbers j u hj hu
  rw [htaken j u hj htrue] at hfree
  cases hfree

/-- A task that goes on, or ends, and holds no more or less than before. -/
theorem Inv.goes {s : State V} {i : Nat} {t : Option Task} (h : Inv I s) (hfree : V.taken s.docs i = false)
    (hweight : Pool.weight Task.holds t = Pool.weight Task.holds (s.tasks.get i))
    (hentering : ∀ u, t = some u → u.entering = none) : Inv I (s.goto i t) := by
  refine h.move h.service (Effect.refl _ i) rfl ?_ (fun _ _ _ _ _ _ => rfl) ?_ fun _ _ _ => hfree
  · have hholders := holders_goto s i t
    have hsame : holders (s.goto i t) = holders s := by omega
    rw [hsame]
    exact h.balance
  · intro u c hu hc
    rw [hentering u hu] at hc
    cases hc

theorem idle_iff {s : State V} {i : Nat} : s.idle i = true ↔ s.tasks.get i = none ∧ V.taken s.docs i = false := by
  unfold State.idle
  rw [Bool.and_eq_true, Option.isNone_iff_eq_none, Bool.not_eq_true']

/-- A join is counted in, or waits to be. -/
theorem Inv.retain {s : State V} {i c : Nat} (hV : Sound V I) (h : Inv I s)
    (ht : s.tasks.get i = some (.joinChecks c))
    (hsock : ∃ k, s.sockets.get c = some k ∧ k.connected = true ∧ k.joined = false)
    (hvacant : s.tasks.Vacant Task.entering i c) : Inv I (retain s i c) := by
  have hfree := h.numbers i _ ht (by rintro d ⟨⟩)
  obtain ⟨hservice, heffect, hclients⟩ := hV.retain s.docs i h.service hfree
  have hholders := holders_goto { s with docs := V.retain s.docs i } i
    (some (if V.taken (V.retain s.docs i) i then .joinRetain c else .joinAdd c))
  have hbefore : holders ({ s with docs := V.retain s.docs i } : State V) = holders s := rfl
  have hold : Pool.weight Task.holds (({ s with docs := V.retain s.docs i } : State V).tasks.get i) = 0 := by
    rw [show ({ s with docs := V.retain s.docs i } : State V).tasks = s.tasks from rfl, ht]
    rfl
  refine h.move hservice heffect rfl ?_ (fun _ _ _ _ _ _ => rfl) ?_ ?_
  · show Balanced (V.clients (V.retain s.docs i)) (holders (Documents.retain s i c))
    unfold Documents.retain
    rcases hclients with ⟨hwaits, hclients⟩ | ⟨hin, n, hn, hclients⟩
    · simp only [hwaits, if_true] at hholders ⊢
      rw [hold, hbefore] at hholders
      have hsame : holders (State.goto { s with docs := V.retain s.docs i } i (some (.joinRetain c))) = holders s := by
        simpa [Task.holds] using hholders
      rw [hclients, hsame]
      exact h.balance
    · simp only [hin, Bool.false_eq_true, if_false] at hholders ⊢
      rw [hold, hbefore] at hholders
      have hmore : holders (State.goto { s with docs := V.retain s.docs i } i (some (.joinAdd c))) = holders s + 1 := by
        simpa [Task.holds] using hholders
      rw [hclients, hmore]
      rcases h.balance with heq | ⟨hnone, -⟩
      · rw [hn, Option.some.injEq] at heq
        exact .inl (by rw [heq]; rfl)
      · rw [hn] at hnone
        cases hnone
  · intro u d hu hd
    cases hu
    split at hd <;> cases hd <;> exact ⟨hvacant, hsock⟩
  · intro u hu hne
    cases hu
    rcases hclients with ⟨hwaits, -⟩ | ⟨hin, -⟩
    · rw [hwaits] at hne
      exact absurd rfl (hne c)
    · exact hin

/-- The load is over for a join that waited for it. -/
theorem Inv.enter {s : State V} {i c : Nat} {p : V.State × Bool} (hV : Sound V I) (h : Inv I s)
    (ht : s.tasks.get i = some (.joinRetain c)) (hp : V.enter s.docs i = some p) :
    Inv I ({ s with docs := p.1 }.goto i (if p.2 then some (.joinAdd c) else none)) := by
  obtain ⟨hservice, heffect, hfree, hclients⟩ := hV.enter s.docs i p h.service hp
  have hholders := holders_goto { s with docs := p.1 } i (if p.2 then some (.joinAdd c) else none)
  have hbefore : holders ({ s with docs := p.1 } : State V) = holders s := rfl
  have hold : Pool.weight Task.holds (({ s with docs := p.1 } : State V).tasks.get i) = 0 := by
    rw [show ({ s with docs := p.1 } : State V).tasks = s.tasks from rfl, ht]
    rfl
  rw [hold, hbefore] at hholders
  refine h.move hservice heffect rfl ?_ (fun _ _ _ _ _ _ => rfl) ?_ fun _ _ _ => hfree
  · show Balanced (V.clients p.1) (holders (State.goto { s with docs := p.1 } i _))
    cases hok : p.2 with
    | false =>
      simp only [hok, Bool.false_eq_true, if_false] at hholders hclients ⊢
      have hsame : holders (State.goto { s with docs := p.1 } i none) = holders s := by simpa using hholders
      rw [hclients, hsame]
      exact h.balance
    | true =>
      simp only [hok, if_true] at hholders hclients ⊢
      obtain ⟨n, hn, hclients⟩ := hclients
      have hmore : holders (State.goto { s with docs := p.1 } i (some (.joinAdd c))) = holders s + 1 := by
        simpa [Task.holds] using hholders
      rw [hclients, hmore]
      rcases h.balance with heq | ⟨hnone, -⟩
      · rw [hn, Option.some.injEq] at heq
        exact .inl (by rw [heq]; rfl)
      · rw [hn] at hnone
        cases hnone
  · intro u d hu hd
    split at hu <;> cases hu
    cases hd
    exact ⟨h.single i _ c ht rfl, h.entering i _ c ht rfl⟩

/-- The socket takes over what its join holds. -/
theorem Inv.add {s : State V} {i c : Nat} {k : Sock} (h : Inv I s) (ht : s.tasks.get i = some (.joinAdd c))
    (hk : s.sockets.get c = some k) : Inv I ((s.setSock c { k with joined := true }).goto i none) := by
  obtain ⟨l, hl, hconnected, hjoined⟩ := h.entering i _ c ht rfl
  rw [hk] at hl
  cases hl
  have hfree := h.numbers i _ ht (by rintro d ⟨⟩)
  refine h.move h.service (Effect.refl _ i) rfl ?_ ?_ (by rintro u d ⟨⟩) fun _ _ _ => hfree
  · have hsock := holders_setSock s c { k with joined := true }
    have htask := holders_goto (s.setSock c { k with joined := true }) i none
    have hout : k.active = false := by simp [Sock.active, hjoined]
    have hin : Sock.active { k with joined := true } = true := by simp [Sock.active, hconnected]
    rw [show (s.setSock c { k with joined := true }).tasks = s.tasks from rfl, ht] at htask
    rw [hk, Pool.weight_some, hout, hin] at hsock
    simp only [Pool.weight_some, Pool.weight_none, Task.holds, Bool.toNat_true, Bool.toNat_false] at hsock htask
    have hsame : holders ((s.setSock c { k with joined := true }).goto i none) = holders s := by omega
    rw [hsame]
    exact h.balance
  · intro j u d hji hu hd
    have hdc : d ≠ c := by
      rintro rfl
      exact h.single i _ d ht rfl j u hji hu hd
    exact get_setSock_of_ne _ hdc

theorem Inv.release {s : State V} {i : Nat} {t : Task} (hV : Sound V I) (h : Inv I s) (ht : s.tasks.get i = some t)
    (hholds : t.holds = true) (hcall : ∀ c, t ≠ .joinRetain c) (hsafe : V.safeRelease s.docs = true) :
    Inv I (release s i) := by
  have hfree := h.numbers i t ht hcall
  have htask := holders_goto { s with docs := V.release s.docs i } i none
  have hbefore : holders ({ s with docs := V.release s.docs i } : State V) = holders s := rfl
  rw [show ({ s with docs := V.release s.docs i } : State V).tasks = s.tasks from rfl, ht, hbefore] at htask
  simp only [Pool.weight_some, Pool.weight_none, hholds, Bool.toNat_true] at htask
  have hclients : V.clients s.docs = some (holders s : Int) := by
    rcases h.balance with heq | ⟨-, hzero⟩
    · exact heq
    · omega
  obtain ⟨hservice, heffect, hless⟩ := hV.release s.docs i _ h.service hfree hsafe hclients (by omega)
  refine h.move hservice heffect rfl ?_ (fun _ _ _ _ _ _ => rfl) (by rintro u d ⟨⟩) (by rintro u ⟨⟩)
  show Balanced (V.clients (V.release s.docs i)) (holders (Documents.release s i))
  unfold Documents.release
  rcases hless with hless | ⟨hone, hnone⟩
  · left
    rw [hless, Option.some.injEq]
    omega
  · right
    exact ⟨hnone, by omega⟩

theorem Inv.leave {s : State V} {i c : Nat} {k : Sock} (h : Inv I s) (hidle : s.idle i = true)
    (hk : s.sockets.get c = some k) (hconnected : k.connected = true) (hjoined : k.joined = true) :
    Inv I ((s.setSock c { k with joined := false }).goto i (some .leaveRelease)) := by
  obtain ⟨hnew, hfree⟩ := idle_iff.1 hidle
  refine h.move h.service (Effect.refl _ i) rfl ?_ ?_ (by rintro u d ⟨⟩ ⟨⟩) fun _ _ _ => hfree
  · have hsock := holders_setSock s c { k with joined := false }
    have htask := holders_goto (s.setSock c { k with joined := false }) i (some .leaveRelease)
    have hin : k.active = true := by simp [Sock.active, hconnected, hjoined]
    have hout : Sock.active { k with joined := false } = false := by simp [Sock.active]
    rw [show (s.setSock c { k with joined := false }).tasks = s.tasks from rfl, hnew] at htask
    rw [hk, Pool.weight_some, hin, hout] at hsock
    simp only [Pool.weight_some, Pool.weight_none, Task.holds, Bool.toNat_true, Bool.toNat_false] at hsock htask
    have hsame : holders ((s.setSock c { k with joined := false }).goto i (some .leaveRelease)) = holders s := by omega
    rw [hsame]
    exact h.balance
  · intro j u d _ hu hd
    have hdc : d ≠ c := by
      rintro rfl
      obtain ⟨l, hl, -, hnot⟩ := h.entering j u d hu hd
      rw [hk] at hl
      cases hl
      rw [hjoined] at hnot
      cases hnot
    exact get_setSock_of_ne _ hdc

theorem Inv.drop {s : State V} {i c : Nat} {k : Sock} (h : Inv I s) (hidle : s.idle i = true)
    (hk : s.sockets.get c = some k) (hconnected : k.connected = true) (hjoined : k.joined = true)
    (hvacant : s.tasks.Vacant Task.entering i c) :
    Inv I ((s.setSock c { k with connected := false }).goto i (some .dropRelease)) := by
  obtain ⟨hnew, hfree⟩ := idle_iff.1 hidle
  refine h.move h.service (Effect.refl _ i) rfl ?_ ?_ (by rintro u d ⟨⟩ ⟨⟩) fun _ _ _ => hfree
  · have hsock := holders_setSock s c { k with connected := false }
    have htask := holders_goto (s.setSock c { k with connected := false }) i (some .dropRelease)
    have hin : k.active = true := by simp [Sock.active, hconnected, hjoined]
    have hout : Sock.active { k with connected := false } = false := by simp [Sock.active]
    rw [show (s.setSock c { k with connected := false }).tasks = s.tasks from rfl, hnew] at htask
    rw [hk, Pool.weight_some, hin, hout] at hsock
    simp only [Pool.weight_some, Pool.weight_none, Task.holds, Bool.toNat_true, Bool.toNat_false] at hsock htask
    have hsame : holders ((s.setSock c { k with connected := false }).goto i (some .dropRelease)) = holders s := by
      omega
    rw [hsame]
    exact h.balance
  · intro j u d hji hu hd
    refine get_setSock_of_ne _ ?_
    rintro rfl
    exact hvacant j u hji hu hd

theorem Inv.close {s : State V} {i c : Nat} {k : Sock} (h : Inv I s) (hidle : s.idle i = true)
    (hk : s.sockets.get c = some k) (hjoined : k.joined = false) (hvacant : s.tasks.Vacant Task.entering i c) :
    Inv I (s.setSock c { k with connected := false }) := by
  have hsock := holders_setSock s c { k with connected := false }
  have hin : k.active = false := by simp [Sock.active, hjoined]
  have hout : Sock.active { k with connected := false } = false := by simp [Sock.active]
  rw [hk, Pool.weight_some, hin, hout] at hsock
  have hsame : holders (s.setSock c { k with connected := false }) = holders s := by simpa using hsock
  refine ⟨h.service, ?_, fun j u d hu hd => ?_, h.single, h.numbers⟩
  · rw [hsame]
    exact h.balance
  · have hji : j ≠ i := by
      rintro rfl
      cases hu.symm.trans (idle_iff.1 hidle).1
    have hdc : d ≠ c := by
      rintro rfl
      exact hvacant j u hji hu hd
    rw [get_setSock_of_ne _ hdc]
    exact h.entering j u d hu hd

theorem Inv.connect {s : State V} {c : Nat} (h : Inv I s) (hfresh : s.sockets.get c = none) :
    Inv I (s.setSock c Sock.new) := by
  have hsock := holders_setSock s c Sock.new
  rw [hfresh] at hsock
  have hsame : holders (s.setSock c Sock.new) = holders s := by simpa [Sock.active, Sock.new] using hsock
  refine ⟨h.service, ?_, fun j u d hu hd => ?_, h.single, h.numbers⟩
  · rw [hsame]
    exact h.balance
  · obtain ⟨k, hk, hrest⟩ := h.entering j u d hu hd
    have hdc : d ≠ c := by
      rintro rfl
      rw [hfresh] at hk
      cases hk
    exact ⟨k, (get_setSock_of_ne _ hdc).trans hk, hrest⟩

theorem Inv.serve {s : State V} {e : V.Event} {d : V.State} (hV : Sound V I) (h : Inv I s)
    (hok : V.safeStep s.docs e = true) (hd : V.step s.docs e = some d) : Inv I { s with docs := d } := by
  obtain ⟨hservice, htaken, -, hclients⟩ := hV.step s.docs e d h.service hok hd
  refine h.docs hservice (fun j _ _ => htaken j) ?_
  rcases hclients with hsame | ⟨hnone, hzero⟩ | ⟨hzero, hnone⟩
  · rw [hsame]
    exact h.balance
  · rcases h.balance with heq | ⟨-, hholders⟩
    · rw [hnone] at heq
      cases heq
    · left
      rw [hzero, hholders]
      rfl
  · rcases h.balance with heq | ⟨heq, -⟩
    · rw [hzero, Option.some.injEq] at heq
      exact .inr ⟨hnone, by omega⟩
    · rw [hzero] at heq
      cases heq

theorem Inv.step {s s' : State V} {e : Event V} (hV : Sound V I) (h : Inv I s) (hok : countsKept s e = true)
    (hs : step s e = some s') : Inv I s' := by
  cases step_outcome hs with
  | connect hfresh => exact h.connect hfresh
  | join hidle =>
    obtain ⟨hnew, hfree⟩ := idle_iff.1 hidle
    refine h.goes hfree (by rw [hnew]; rfl) ?_
    rintro u ⟨⟩
    rfl
  | leave hidle hk hconnected hjoined => exact h.leave hidle hk hconnected hjoined
  | stay => exact h
  | drop hidle hk hconnected hjoined => exact h.drop hidle hk hconnected hjoined (Pool.vacant_iff.1 hok)
  | close hidle hk hjoined => exact h.close hidle hk hjoined (Pool.vacant_iff.1 hok)
  | update c u =>
    have hupdate := fun i => hV.update s.docs u i h.service
    refine h.docs (hupdate 0).1 (fun j _ _ htaken => ?_) ?_
    · rw [← (hupdate j).2.2.2]
      exact htaken
    · rw [(hupdate 0).2.2.1]
      exact h.balance
  | @tick i hidle =>
    obtain ⟨hnew, hfree⟩ := idle_iff.1 hidle
    obtain ⟨hservice, heffect, hclients⟩ := hV.tick s.docs i h.service hfree
    refine h.docs hservice (fun j t hj htaken => heffect.taken j ?_ htaken) ?_
    · rintro rfl
      rw [hnew] at hj
      cases hj
    · rw [hclients]
      exact h.balance
  | known ht => exact h.goes (h.numbers _ _ ht (by rintro d ⟨⟩)) (by rw [ht]; rfl) (by rintro u ⟨⟩)
  | check ht =>
    refine h.goes (h.numbers _ _ ht (by rintro d ⟨⟩)) (by rw [ht]; rfl) ?_
    rintro u ⟨⟩
    rfl
  | refuse ht => exact h.goes (h.numbers _ _ ht (by rintro d ⟨⟩)) (by rw [ht]; rfl) (by rintro u ⟨⟩)
  | retain ht =>
    simp only [countsKept, ht, Bool.not_true, Bool.false_or, Bool.and_eq_true, Option.any_eq_true,
      Bool.not_eq_true'] at hok
    obtain ⟨⟨k, hk, hconnected, hjoined⟩, hvacant⟩ := hok
    exact h.retain hV ht ⟨k, hk, hconnected, hjoined⟩ (Pool.vacant_iff.1 hvacant)
  | enter ht hp => exact h.enter hV ht hp
  | add ht hk => exact h.add ht hk
  | lost ht hk =>
    -- a join that is counted in has its socket
    obtain ⟨k, hk', -⟩ := h.entering _ _ _ ht rfl
    rw [hk] at hk'
    cases hk'
  | release ht hrelease =>
    rcases hrelease with rfl | rfl
    · exact h.release hV ht rfl (by rintro d ⟨⟩) (by simpa only [countsKept, ht] using hok)
    · exact h.release hV ht rfl (by rintro d ⟨⟩) (by simpa only [countsKept, ht] using hok)
  | service hd => exact h.serve hV hok hd

/-! ## What follows -/

theorem Inv.matches {s : State V} (hV : Sound V I) (h : Inv I s) : Matches s := by
  have hrest : AtRest s → holders s = joined s := by
    rintro ⟨hempty, -⟩
    unfold holders Pool.count
    rw [hempty]
    rfl
  constructor
  · intro hat n hn
    rcases h.balance with heq | ⟨hnone, -⟩
    · rw [hn, Option.some.injEq] at heq
      rw [heq, hrest hat]
    · rw [hn] at hnone
      cases hnone
  · intro hpos
    refine ⟨fun hnone => ?_, hV.alive s.docs h.service⟩
    rcases h.balance with heq | ⟨-, hzero⟩
    · rw [hnone] at heq
      cases heq
    · unfold holders at hzero
      omega
  · intro hat hempty hsaved
    rcases h.balance with heq | ⟨hnone, -⟩
    · rw [hrest hat, hempty] at heq
      rw [hV.left s.docs h.service hat.2 heq] at hsaved
      cases hsaved
    · exact hnone

theorem Inv.release_reported {s : State V} {i : Nat} {t : Task} (hV : Sound V I) (h : Inv I s)
    (ht : s.tasks.get i = some t) (hholds : t.holds = true) (hcall : ∀ c, t ≠ .joinRetain c)
    (hsafe : V.safeRelease s.docs = true) : V.reports (V.release s.docs i) = V.reports s.docs ∨
      V.clients (V.release s.docs i) = none ∨ V.clients (V.release s.docs i) = some 0 := by
  have hcount := Pool.count_put s.tasks Task.holds i none
  rw [ht, Pool.weight_some, hholds, Pool.weight_none, Bool.toNat_true] at hcount
  rcases h.balance with heq | ⟨-, hzero⟩
  · refine (hV.release s.docs i _ h.service (h.numbers i t ht hcall) hsafe heq ?_).2.1.reports
    unfold holders
    omega
  · unfold holders at hzero
    omega

/-- The room is reported empty only when the counter is at its end. -/
theorem Inv.reported {s s' : State V} {e : Event V} (hV : Sound V I) (h : Inv I s) (hok : countsKept s e = true)
    (hs : Documents.step s e = some s') :
    V.reports s'.docs = V.reports s.docs ∨ V.clients s'.docs = none ∨ V.clients s'.docs = some 0 := by
  cases step_outcome hs with
  | update c u => exact (hV.update s.docs u 0 h.service).2.1.reports
  | @tick i hidle => exact (hV.tick s.docs i h.service (idle_iff.1 hidle).2).2.1.reports
  | @retain i c ht => exact (hV.retain s.docs i h.service (h.numbers i _ ht (by rintro d ⟨⟩))).2.1.reports
  | @enter i c _ p ht hp => exact (hV.enter s.docs i p h.service hp).2.1.reports
  | release ht hrelease =>
    rcases hrelease with rfl | rfl
    · exact h.release_reported hV ht rfl (by rintro d ⟨⟩) (by simpa only [countsKept, ht] using hok)
    · exact h.release_reported hV ht rfl (by rintro d ⟨⟩) (by simpa only [countsKept, ht] using hok)
  | @service e d hd => exact (hV.step s.docs e d h.service hok hd).2.2.1
  -- the service is not called
  | connect | join | leave | stay | drop | close | known | check | refuse | add | lost => exact .inl rfl

theorem Inv.reportsTrue {s s' : State V} {e : Event V} (hV : Sound V I) (h : Inv I s) (hok : countsKept s e = true)
    (hs : Documents.step s e = some s') : ReportsTrue s s' := by
  intro hreport
  rcases (h.reported hV hok hs).resolve_left hreport with hend | hend
  · rcases (h.step hV hok hs).balance with heq | ⟨-, hzero⟩
    · rw [hend] at heq
      cases heq
    · unfold holders at hzero
      omega
  · rcases (h.step hV hok hs).balance with heq | ⟨hnone, -⟩
    · rw [hend, Option.some.injEq] at heq
      unfold holders at heq
      omega
    · rw [hend] at hnone
      cases hnone

theorem inv_init (hV : Sound V I) : Inv I (init V) := by
  refine ⟨hV.init.1, .inr ⟨hV.init.2, rfl⟩, ?_, Pool.exclusive_empty, ?_⟩
  · rintro i t c ⟨⟩
  · rintro i t ⟨⟩

/-- Over a service that counts right, the counter matches the sockets in every run that keeps it so. -/
theorem counts_match (hV : Sound V I) {es : List (Event V)} {s : State V}
    (hok : Meets step (fun s e => countsKept s e = true) (init V) es) (h : run step (init V) es = some s) :
    Matches s ∧ ∀ e s', countsKept s e = true → step s e = some s' → ReportsTrue s s' := by
  have hinv : Inv I s := TransSys.run_inv (fun _ _ _ hi hok hs => hi.step hV hok hs) (inv_init hV) hok h
  exact ⟨hinv.matches hV, fun e s' hok hs => hinv.reportsTrue hV hok hs⟩

end Livetich.Sockets.Documents
