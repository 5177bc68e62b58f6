/-
What the sockets of a session's document see: the state each is sent when it has joined, the updates relayed to its
room and its own, against the document the service has registered. A document is a set: what its entry was loaded
with, as one element, and the updates merged into it since, by number. The packets to one socket arrive in order.

The sockets, the handlers and the service are those of `Documents`, where a join whose `docs.retain` has counted it in
first enters the room, and is marked joined and sent the state in a later step.
-/
import Mathlib.Data.Finset.Lattice.Lemmas
import Livetich.Sockets.Documents

namespace Livetich.Sockets.Viewers

open TransSys
open Livetich.Sockets.Documents (Service Sound Effect Outcome step_outcome holders holders_goto holders_setSock idle_iff
  get_setSock_of_ne)

/-! ## Contents and packets -/

inductive Atom
  /-- What an entry was loaded with. -/
  | loaded (entry : Nat)
  | update (n : Nat)
  deriving DecidableEq

abbrev Content := Finset Atom

inductive Packet
  /-- The state, the first since the socket joined or sent again. -/
  | state (first : Bool) (content : Content)
  | relay (n : Nat)
  deriving DecidableEq

structure Viewer where
  /-- What is on its way to the socket. -/
  queue : List Packet
  /-- What the socket was sent since it joined; `none` without a state. -/
  view : Option Content
  /-- What it sent since it joined, and had accepted. -/
  own : Content
  deriving DecidableEq

/-- A packet arrives. -/
def Packet.arrive (view : Option Content) : Packet → Option Content
  | .state first content => some (if first then content else view.getD ∅ ∪ content)
  | .relay n => view.map (insert (.update n))

namespace Viewer

def new : Viewer := ⟨[], none, ∅⟩

def push (v : Viewer) (p : Packet) : Viewer := { v with queue := v.queue ++ [p] }

/-- What the socket has been sent once everything has arrived. -/
def drained (v : Viewer) : Option Content := v.queue.foldl Packet.arrive v.view

@[simp] theorem drained_push (v : Viewer) (p : Packet) : (v.push p).drained = p.arrive v.drained := by
  unfold drained push
  rw [List.foldl_append]
  rfl

@[simp] theorem own_push (v : Viewer) (p : Packet) : (v.push p).own = v.own := rfl

end Viewer

/-! ## The machine -/

/-- What a gateway makes of its service's document. -/
structure Serving (V : Service) where
  /-- The number of the registered entry. -/
  entry : V.State → Option Nat
  /-- The update is merged into the registered document. -/
  applies : V.State → V.Update → Bool
  /-- It is accepted, and relayed to the room. -/
  relays : V.State → V.Update → Bool
  /-- It is relayed to its sender as well. -/
  echoes : V.Update → Bool
  /-- A socket that joins again is sent the state again. -/
  replays : Bool

structure State (V : Service) where
  base : Documents.State V
  /-- The joins that have entered the room and not joined yet. -/
  entered : List Nat
  /-- The sockets in the room. -/
  room : List Nat
  viewers : Nat → Viewer
  /-- The updates merged into each entry. -/
  merged : Nat → Content
  /-- The number of the next update. -/
  next : Nat

variable {V : Service}

def init (V : Service) : State V := ⟨Documents.init V, [], [], fun _ => .new, fun _ => ∅, 0⟩

inductive Event (V : Service)
  | act (e : Documents.Event V)
  /-- `client.join` of join `i`. -/
  | enter (i : Nat)
  /-- The next packet to a socket arrives. -/
  | deliver (c : Nat)

namespace State

def setViewer (s : State V) (c : Nat) (v : Viewer) : State V := { s with viewers := Function.update s.viewers c v }

def leaveRoom (s : State V) (c : Nat) : State V := { s with room := s.room.filter (· != c) }

/-- The socket's `sessionIds` has the session. -/
def hasJoined (s : State V) (c : Nat) : Bool := (s.base.sockets.get c).any (·.joined)

variable (W : Serving V)

/-- The registered document. -/
def contents (s : State V) : Option Content :=
  (W.entry s.base.docs).map fun e => insert (.loaded e) (s.merged e)

/-- `encodeState` and the emit of what it returns, if it returns anything. -/
def sendState (s : State V) (c : Nat) (first : Bool) : State V :=
  match s.contents W with
  | some content => s.setViewer c ((s.viewers c).push (.state first content))
  | none => s

/-- A join ends: the socket starts over. -/
def welcome (s : State V) (c : Nat) : State V :=
  (s.setViewer c { s.viewers c with view := none, own := ∅ }).sendState W c true

/-- Update `u` of socket `c` at a service in state `d`. -/
def post (s : State V) (d : V.State) (c : Nat) (u : V.Update) : State V :=
  let atom := Atom.update s.next
  { s with
    next := s.next + 1
    merged := match W.entry d with
      | some e => if W.applies d u then Function.update s.merged e (insert atom (s.merged e)) else s.merged
      | none => s.merged
    viewers := if W.relays d u then fun x =>
        if x = c ∧ W.echoes u = false then { s.viewers x with own := insert atom (s.viewers x).own }
        else if s.room.contains x then (s.viewers x).push (.relay s.next)
        else s.viewers x
      else s.viewers }

/-- What a step of the gateway means for the room and the viewers. -/
def follow (s : State V) (base : Documents.State V) : Documents.Event V → State V
  | .leave _ c => if s.hasJoined c then { s with base }.leaveRoom c else { s with base }
  | .disconnect _ c => { s with base }.leaveRoom c
  | .update c u => { s with base }.post W s.base.docs c u
  | .resume i _ => match s.base.tasks.get i with
    | some (.joinAuth c) => if s.hasJoined c && W.replays then { s with base }.sendState W c false else { s with base }
    | some (.joinAdd c) => { s with base, entered := s.entered.filter (· != i) }.welcome W c
    | _ => { s with base }
  | _ => { s with base }

/-- A join is marked joined after it has entered the room. -/
def ready (s : State V) : Documents.Event V → Bool
  | .resume i _ => match s.base.tasks.get i with
    | some (.joinAdd _) => s.entered.contains i
    | _ => true
  | _ => true

end State

def step (W : Serving V) (s : State V) : Event V → Option (State V)
  | .act e => if s.ready e then (Documents.step s.base e).map fun base => s.follow W base e else none
  | .enter i => match s.base.tasks.get i with
    | some (.joinAdd c) =>
      if s.entered.contains i then none else some { s with entered := i :: s.entered, room := c :: s.room }
    | _ => none
  | .deliver c => match (s.viewers c).queue with
    | [] => none
    | p :: queue => some (s.setViewer c { s.viewers c with queue, view := p.arrive (s.viewers c).view })

/-! ## What viewers are to see -/

/-- A socket that has joined and has no packet on its way has exactly the registered document. -/
def Converged (W : Serving V) (s : State V) : Prop :=
  ∀ c k, s.base.sockets.get c = some k → k.active = true → (s.viewers c).queue = [] →
    ∃ content view, s.contents W = some content ∧ (s.viewers c).view = some view ∧
      view ∪ (s.viewers c).own = content

/-- The service takes no entry away from anyone, and no socket leaves the room while a join of it has entered the room
and not joined yet. -/
def servedOn (s : State V) : Event V → Bool
  | .act (.leave _ c) => !s.hasJoined c || s.entered.all fun i => s.base.tasks.get i != some (.joinAdd c)
  | .act (.resume i _) => match s.base.tasks.get i with
    | some .leaveRelease | some .dropRelease => V.safeRelease s.base.docs
    | _ => true
  | .act (.service e) => V.safeStep s.base.docs e
  | _ => true

/-! ## A counter that is never too low -/

/-- The counter is no less than the number of those it counts. -/
def AtLeast (clients : Option Int) (n : Nat) : Prop := (∃ m, clients = some m ∧ (n : Int) ≤ m) ∨ clients = none ∧ n = 0

variable {I : V.State → Prop}

/-- Whoever holds the document is counted; some may be counted twice, or for nobody. -/
structure Held (I : V.State → Prop) (s : Documents.State V) : Prop where
  service : I s.docs
  counted : AtLeast (V.clients s.docs) (holders s)
  /-- A handler that waits for no load has no call of the service in flight. -/
  numbers : ∀ i t, s.tasks.get i = some t → (∀ c, t ≠ .joinRetain c) → V.taken s.docs i = false

theorem AtLeast.le {clients : Option Int} {n m : Nat} (h : AtLeast clients n) (hm : m ≤ n) : AtLeast clients m := by
  rcases h with ⟨x, hx, hn⟩ | ⟨hnone, hzero⟩
  · exact .inl ⟨x, hx, by omega⟩
  · exact .inr ⟨hnone, by omega⟩

theorem AtLeast.succ {clients : Option Int} {n : Nat} {x : Int} (h : AtLeast clients n) (hx : clients = some x) :
    AtLeast (some (x + 1)) (n + 1) := by
  rcases h with ⟨y, hy, hn⟩ | ⟨hnone, -⟩
  · rw [hx, Option.some.injEq] at hy
    exact .inl ⟨x + 1, rfl, by omega⟩
  · rw [hx] at hnone
    cases hnone

theorem AtLeast.pos {clients : Option Int} {n : Nat} (h : AtLeast clients n) (hn : 0 < n) :
    ∃ x, clients = some x ∧ (n : Int) ≤ x := by
  rcases h with hx | ⟨-, hzero⟩
  · exact hx
  · omega

namespace Held

open Documents (Balanced)

variable {s s' : Documents.State V} {i c : Nat} {t : Option Documents.Task}

/-- A step of task `i`, with what becomes of the counter worked out. -/
theorem move (h : Held I s) (hservice : I s'.docs) (heffect : Effect s.docs s'.docs i)
    (htasks : s'.tasks = s.tasks.put i t) (hcounted : AtLeast (V.clients s'.docs) (holders s'))
    (hnumber : ∀ u, t = some u → (∀ c, u ≠ .joinRetain c) → V.taken s'.docs i = false) : Held I s' := by
  refine ⟨hservice, hcounted, fun j u hj hu => ?_⟩
  rw [htasks] at hj
  rcases Pool.get_put_cases hj with ⟨rfl, hnew⟩ | ⟨hji, hold⟩
  · exact hnumber u hnew hu
  · refine Bool.eq_false_iff.2 fun htaken => ?_
    have hfree := h.numbers j u hold hu
    rw [heffect.taken j hji htaken] at hfree
    cases hfree

/-- A step of the service alone. -/
theorem docs {d : V.State} (h : Held I s) (hservice : I d)
    (htaken : ∀ j t, s.tasks.get j = some t → V.taken d j = true → V.taken s.docs j = true)
    (hcounted : AtLeast (V.clients d) (holders s)) : Held I { s with docs := d } := by
  refine ⟨hservice, hcounted, fun j u hj hu => ?_⟩
  refine Bool.eq_false_iff.2 fun htrue => ?_
  have hfree := h.numbers j u hj hu
  rw [htaken j u hj htrue] at hfree
  cases hfree

/-- A task goes on, or ends, and the service is not called: no more is held than before. -/
theorem goes (h : Held I s) (hdocs : s'.docs = s.docs) (htasks : s'.tasks = s.tasks.put i t)
    (hfree : V.taken s.docs i = false) (hholders : holders s' ≤ holders s) : Held I s' := by
  refine h.move (by rw [hdocs]; exact h.service) (by rw [hdocs]; exact Effect.refl _ i) htasks ?_ fun _ _ _ => ?_
  · rw [hdocs]
    exact h.counted.le hholders
  · rw [hdocs]
    exact hfree

theorem retain (hV : Sound V I) (h : Held I s) (ht : s.tasks.get i = some (.joinChecks c)) :
    Held I (Documents.retain s i c) := by
  have hfree := h.numbers i _ ht (by rintro d ⟨⟩)
  obtain ⟨hservice, heffect, hclients⟩ := hV.retain s.docs i h.service hfree
  have hholders := holders_goto { s with docs := V.retain s.docs i } i
    (some (if V.taken (V.retain s.docs i) i then .joinRetain c else .joinAdd c))
  have hbefore : holders ({ s with docs := V.retain s.docs i } : Documents.State V) = holders s := rfl
  rw [show ({ s with docs := V.retain s.docs i } : Documents.State V).tasks = s.tasks from rfl, ht, hbefore] at hholders
  refine h.move hservice heffect rfl ?_ ?_
  · show AtLeast (V.clients (V.retain s.docs i)) (holders (Documents.retain s i c))
    unfold Documents.retain
    rcases hclients with ⟨hwaits, hclients⟩ | ⟨hin, n, hn, hclients⟩
    · simp only [hwaits, if_true] at hholders ⊢
      simp only [Pool.weight_some, Documents.Task.holds, Bool.toNat_false] at hholders
      rw [hclients]
      exact h.counted.le (by omega)
    · simp only [hin, Bool.false_eq_true, if_false] at hholders ⊢
      simp only [Pool.weight_some, Documents.Task.holds, Bool.toNat_false, Bool.toNat_true] at hholders
      rw [hclients]
      exact (h.counted.succ hn).le (by omega)
  · intro u hu hne
    cases hu
    rcases hclients with ⟨hwaits, -⟩ | ⟨hin, -⟩
    · rw [hwaits] at hne
      exact absurd rfl (hne c)
    · exact hin

theorem enter {p : V.State × Bool} (hV : Sound V I) (h : Held I s) (ht : s.tasks.get i = some (.joinRetain c))
    (hp : V.enter s.docs i = some p) :
    Held I (Documents.State.goto { s with docs := p.1 } i (if p.2 then some (.joinAdd c) else none)) := by
  obtain ⟨hservice, heffect, hfree, hclients⟩ := hV.enter s.docs i p h.service hp
  have hholders := holders_goto { s with docs := p.1 } i (if p.2 then some (.joinAdd c) else none)
  have hbefore : holders ({ s with docs := p.1 } : Documents.State V) = holders s := rfl
  rw [show ({ s with docs := p.1 } : Documents.State V).tasks = s.tasks from rfl, ht, hbefore] at hholders
  refine h.move hservice heffect rfl ?_ fun _ _ _ => hfree
  show AtLeast (V.clients p.1) (holders (Documents.State.goto { s with docs := p.1 } i _))
  cases hin : p.2 with
  | false =>
    simp only [hin, Bool.false_eq_true, if_false] at hholders hclients ⊢
    simp only [Pool.weight_some, Pool.weight_none, Documents.Task.holds, Bool.toNat_false] at hholders
    rw [hclients]
    exact h.counted.le (by omega)
  | true =>
    simp only [hin, if_true] at hholders hclients ⊢
    simp only [Pool.weight_some, Documents.Task.holds, Bool.toNat_false, Bool.toNat_true] at hholders
    obtain ⟨n, hn, hclients⟩ := hclients
    rw [hclients]
    exact (h.counted.succ hn).le (by omega)

theorem release {t : Documents.Task} (hV : Sound V I) (h : Held I s) (ht : s.tasks.get i = some t)
    (hholds : t.holds = true) (hcall : ∀ c, t ≠ .joinRetain c) (hsafe : V.safeRelease s.docs = true) :
    Held I (Documents.release s i) := by
  have hfree := h.numbers i t ht hcall
  have htask := holders_goto { s with docs := V.release s.docs i } i none
  have hbefore : holders ({ s with docs := V.release s.docs i } : Documents.State V) = holders s := rfl
  rw [show ({ s with docs := V.release s.docs i } : Documents.State V).tasks = s.tasks from rfl, ht, hbefore] at htask
  simp only [Pool.weight_some, Pool.weight_none, hholds, Bool.toNat_true] at htask
  obtain ⟨n, hn, hle⟩ := h.counted.pos (by omega)
  obtain ⟨hservice, heffect, hless⟩ := hV.release s.docs i n h.service hfree hsafe hn (by omega)
  refine h.move hservice heffect rfl ?_ (by rintro u ⟨⟩)
  show AtLeast (V.clients (V.release s.docs i))
    (holders (Documents.State.goto { s with docs := V.release s.docs i } i none))
  rcases hless with hless | ⟨hone, hnone⟩
  · exact .inl ⟨n - 1, hless, by omega⟩
  · exact .inr ⟨hnone, by omega⟩

theorem leave {k : Documents.Sock} (h : Held I s) (hidle : s.idle i = true) (hk : s.sockets.get c = some k)
    (hconnected : k.connected = true) (hjoined : k.joined = true) :
    Held I ((s.setSock c { k with joined := false }).goto i (some .leaveRelease)) := by
  obtain ⟨hnew, hfree⟩ := idle_iff.1 hidle
  refine h.goes rfl rfl hfree ?_
  have hsock := holders_setSock s c { k with joined := false }
  have htask := holders_goto (s.setSock c { k with joined := false }) i (some .leaveRelease)
  have hin : k.active = true := by simp [Documents.Sock.active, hconnected, hjoined]
  have hout : Documents.Sock.active { k with joined := false } = false := by simp [Documents.Sock.active]
  rw [show (s.setSock c { k with joined := false }).tasks = s.tasks from rfl, hnew] at htask
  rw [hk, Pool.weight_some, hin, hout] at hsock
  simp only [Pool.weight_some, Pool.weight_none, Documents.Task.holds, Bool.toNat_true, Bool.toNat_false]
    at hsock htask
  omega

theorem drop {k : Documents.Sock} (h : Held I s) (hidle : s.idle i = true) (hk : s.sockets.get c = some k)
    (hconnected : k.connected = true) (hjoined : k.joined = true) :
    Held I ((s.setSock c { k with connected := false }).goto i (some .dropRelease)) := by
  obtain ⟨hnew, hfree⟩ := idle_iff.1 hidle
  refine h.goes rfl rfl hfree ?_
  have hsock := holders_setSock s c { k with connected := false }
  have htask := holders_goto (s.setSock c { k with connected := false }) i (some .dropRelease)
  have hin : k.active = true := by simp [Documents.Sock.active, hconnected, hjoined]
  have hout : Documents.Sock.active { k with connected := false } = false := by simp [Documents.Sock.active]
  rw [show (s.setSock c { k with connected := false }).tasks = s.tasks from rfl, hnew] at htask
  rw [hk, Pool.weight_some, hin, hout] at hsock
  simp only [Pool.weight_some, Pool.weight_none, Documents.Task.holds, Bool.toNat_true, Bool.toNat_false]
    at hsock htask
  omega

/-- A socket comes, or goes, that is not counted in. -/
theorem setSock {k : Documents.Sock} (h : Held I s) (hk : k.active = false) : Held I (s.setSock c k) := by
  refine ⟨h.service, h.counted.le ?_, h.numbers⟩
  have hsock := holders_setSock s c k
  rw [hk, Bool.toNat_false] at hsock
  omega

/-- The socket takes over what its join holds, unless it is counted in already. -/
theorem add {k : Documents.Sock} (h : Held I s) (ht : s.tasks.get i = some (.joinAdd c)) :
    Held I ((s.setSock c { k with joined := true }).goto i none) := by
  refine h.goes rfl rfl (h.numbers i _ ht (by rintro d ⟨⟩)) ?_
  have hsock := holders_setSock s c { k with joined := true }
  have htask := holders_goto (s.setSock c { k with joined := true }) i none
  have hone : (Documents.Sock.active { k with joined := true }).toNat ≤ 1 := Bool.toNat_le _
  rw [show (s.setSock c { k with joined := true }).tasks = s.tasks from rfl, ht] at htask
  simp only [Pool.weight_some, Pool.weight_none, Documents.Task.holds, Bool.toNat_true] at htask
  show holders ((s.setSock c { k with joined := true }).goto i none) ≤ holders s
  omega

/-- A task that calls nothing goes on to one that holds nothing, or ends. -/
theorem next {u : Documents.Task} (h : Held I s) (ht : s.tasks.get i = some u) (hcall : ∀ c, u ≠ .joinRetain c)
    (hholds : Pool.weight Documents.Task.holds t = 0) : Held I (s.goto i t) := by
  refine h.goes rfl rfl (h.numbers i u ht hcall) ?_
  have htask := holders_goto s i t
  omega

theorem step {e : Documents.Event V} (hV : Sound V I) (h : Held I s)
    (hsafe : ∀ i allowed, e = .resume i allowed → s.tasks.get i = some .leaveRelease ∨
      s.tasks.get i = some .dropRelease → V.safeRelease s.docs = true)
    (hservice : ∀ f, e = .service f → V.safeStep s.docs f = true) (hs : Documents.step s e = some s') :
    Held I s' := by
  cases step_outcome hs with
  | connect => exact h.setSock rfl
  | @join i c hidle =>
    obtain ⟨hnew, hfree⟩ := idle_iff.1 hidle
    refine h.goes rfl rfl hfree ?_
    have htask := holders_goto s i (some (.joinAuth c))
    rw [hnew] at htask
    exact Nat.le_of_eq htask
  | leave hidle hk hconnected hjoined => exact h.leave hidle hk hconnected hjoined
  | stay => exact h
  | drop hidle hk hconnected hjoined => exact h.drop hidle hk hconnected hjoined
  | close => exact h.setSock rfl
  | update c u =>
    have hupdate := fun i => hV.update s.docs u i h.service
    refine h.docs (hupdate 0).1 (fun j _ _ htaken => ?_) ?_
    · rw [← (hupdate j).2.2.2]
      exact htaken
    · rw [(hupdate 0).2.2.1]
      exact h.counted
  | @tick i hidle =>
    obtain ⟨hnew, hfree⟩ := idle_iff.1 hidle
    obtain ⟨hkept, heffect, hclients⟩ := hV.tick s.docs i h.service hfree
    refine h.docs hkept (fun j t hj htaken => heffect.taken j ?_ htaken) ?_
    · rintro rfl
      rw [hnew] at hj
      cases hj
    · rw [hclients]
      exact h.counted
  | known ht => exact h.next ht (by rintro d ⟨⟩) rfl
  | check ht => exact h.next ht (by rintro d ⟨⟩) rfl
  | refuse ht => exact h.next ht (by rintro d ⟨⟩) rfl
  | retain ht => exact h.retain hV ht
  | enter ht hp => exact h.enter hV ht hp
  | add ht => exact h.add ht
  | lost ht => exact h.next ht (by rintro d ⟨⟩) rfl
  | release ht hrelease =>
    have hcalled := hsafe _ _ rfl (by rw [ht, Option.some.injEq, Option.some.injEq]; exact hrelease)
    rcases hrelease with rfl | rfl
    · exact h.release hV ht rfl (by rintro d ⟨⟩) hcalled
    · exact h.release hV ht rfl (by rintro d ⟨⟩) hcalled
  | @service f d hd =>
    obtain ⟨hkept, htaken, -, hclients⟩ := hV.step s.docs f d h.service (hservice f rfl) hd
    refine h.docs hkept (fun j _ _ => htaken j) ?_
    rcases hclients with hsame | ⟨hnone, hzero⟩ | ⟨hzero, hnone⟩
    · rw [hsame]
      exact h.counted
    · rcases h.counted with ⟨x, hx, -⟩ | ⟨-, hholders⟩
      · rw [hnone] at hx
        cases hx
      · exact .inl ⟨0, hzero, by omega⟩
    · rcases h.counted with ⟨x, hx, hle⟩ | ⟨hx, -⟩
      · rw [hzero, Option.some.injEq] at hx
        exact .inr ⟨hnone, by omega⟩
      · rw [hzero] at hx
        cases hx

theorem init (hV : Sound V I) : Held I (Documents.init V) :=
  ⟨hV.init.1, .inr ⟨hV.init.2, rfl⟩, fun i t ht => by cases ht⟩

end Held

/-! ## The registered entry stays -/

/-- What the gateway, the timer or the store does to the service. -/
inductive Move : V.State → V.State → Prop
  | retain (d : V.State) (i : Nat) : Move d (V.retain d i)
  | enter {d : V.State} {i : Nat} {p : V.State × Bool} (h : V.enter d i = some p) : Move d p.1
  | release (d : V.State) (i : Nat) : Move d (V.release d i)
  | update (d : V.State) (u : V.Update) : Move d (V.update d u)
  | tick (d : V.State) (i : Nat) : Move d (V.tick d i)
  | step {d d' : V.State} {e : V.Event} (h : V.step d e = some d') : Move d d'

/-- An entry is registered or forgotten only as one without clients, and while one is registered what is relayed is
what is merged. -/
structure Steady (W : Serving V) : Prop where
  registered : ∀ d, (W.entry d).isSome = (V.clients d).isSome
  agrees : ∀ d u, (W.entry d).isSome = true → W.relays d u = W.applies d u
  moves : ∀ d d', Move d d' → W.entry d' = W.entry d ∨ V.clients d' = none ∨ V.clients d' = some 0

/-- The socket is connected and its `sessionIds` has the session. -/
def Active (s : Documents.State V) (c : Nat) : Prop := ∃ k, s.sockets.get c = some k ∧ k.active = true

/-- The socket has disconnected. -/
def Gone (s : Documents.State V) (c : Nat) : Prop := ∃ k, s.sockets.get c = some k ∧ k.connected = false

theorem Active.holders_pos {s : Documents.State V} {c : Nat} (h : Active s c) : 0 < holders s := by
  obtain ⟨k, hk, hactive⟩ := h
  have hcount := Pool.count_put s.sockets Documents.Sock.active c none
  rw [hk, Pool.weight_some, hactive, Pool.weight_none, Bool.toNat_true] at hcount
  unfold holders Documents.joined
  omega

theorem step_docs {s s' : Documents.State V} {e : Documents.Event V} (hs : Documents.step s e = some s') :
    s'.docs = s.docs ∨ Move s.docs s'.docs := by
  cases step_outcome hs with
  | update c u => exact .inr (.update s.docs u)
  | @tick i => exact .inr (.tick s.docs i)
  | @retain i => exact .inr (.retain s.docs i)
  | enter ht hp => exact .inr (.enter hp)
  | @release i => exact .inr (.release s.docs i)
  | service hd => exact .inr (.step hd)
  | connect | join | leave | stay | drop | close | known | check | refuse | add | lost => exact .inl rfl

/-- Whoever has joined, or is about to, finds the entry that was registered before the step. -/
theorem entry_kept {W : Serving V} (hW : Steady W) {s s' : Documents.State V} {e : Documents.Event V}
    (hs : Documents.step s e = some s') (hheld : Held I s') (hpos : 0 < holders s') :
    W.entry s'.docs = W.entry s.docs ∧ (W.entry s'.docs).isSome = true := by
  obtain ⟨n, hn, hle⟩ := hheld.counted.pos hpos
  refine ⟨?_, by rw [hW.registered, hn]; rfl⟩
  rcases step_docs hs with hsame | hmove
  · rw [hsame]
  · rcases hW.moves _ _ hmove with hsame | hnone | hzero
    · exact hsame
    · rw [hn] at hnone
      cases hnone
    · rw [hn, Option.some.injEq] at hzero
      omega

/-! ## Sockets and tasks over a step -/

section Steps

variable {s s' : Documents.State V} {e : Documents.Event V} {c i : Nat}

theorem get_setSock_self (k : Documents.Sock) : (s.setSock c k).sockets.get c = some k := by
  show (s.sockets.put c (some k)).get c = some k
  rw [Pool.get_put_self]

/-- What a step does to a socket. -/
theorem socket_step (hs : Documents.step s e = some s') :
    s'.sockets.get c = s.sockets.get c ∨
      e = .connect c ∧ s.sockets.get c = none ∧ s'.sockets.get c = some .new ∨
      ∃ k, s.sockets.get c = some k ∧
        ((∃ i, e = .leave i c ∧ k.joined = true ∧ k.connected = true ∧
            s'.sockets.get c = some { k with joined := false }) ∨
          (∃ i, e = .disconnect i c ∧ s'.sockets.get c = some { k with connected := false }) ∨
          ∃ i allowed, e = .resume i allowed ∧ s.tasks.get i = some (.joinAdd c) ∧
            s'.sockets.get c = some { k with joined := true }) := by
  cases step_outcome hs with
  | @connect d hfresh =>
    by_cases hcd : c = d
    · subst hcd
      exact .inr (.inl ⟨rfl, hfresh, get_setSock_self _⟩)
    · exact .inl (get_setSock_of_ne _ hcd)
  | @leave j d k hidle hk hconnected hjoined =>
    by_cases hcd : c = d
    · subst hcd
      exact .inr (.inr ⟨k, hk, .inl ⟨j, rfl, hjoined, hconnected, get_setSock_self _⟩⟩)
    · exact .inl (get_setSock_of_ne _ hcd)
  | @drop j d k hidle hk =>
    by_cases hcd : c = d
    · subst hcd
      exact .inr (.inr ⟨k, hk, .inr (.inl ⟨j, rfl, get_setSock_self _⟩)⟩)
    · exact .inl (get_setSock_of_ne _ hcd)
  | @close j d k hidle hk =>
    by_cases hcd : c = d
    · subst hcd
      exact .inr (.inr ⟨k, hk, .inr (.inl ⟨j, rfl, get_setSock_self _⟩)⟩)
    · exact .inl (get_setSock_of_ne _ hcd)
  | @add j d allowed k ht hk =>
    by_cases hcd : c = d
    · subst hcd
      exact .inr (.inr ⟨k, hk, .inr (.inr ⟨j, allowed, rfl, ht, get_setSock_self _⟩)⟩)
    · exact .inl (get_setSock_of_ne _ hcd)
  | join | stay | update | tick | known | check | refuse | retain | enter | lost | release | service => exact .inl rfl

theorem get_goto {j : Nat} {t : Option Documents.Task} (h : i ≠ j) : (s.goto j t).tasks.get i = s.tasks.get i :=
  Pool.get_put_of_ne h

/-- A join that is to be marked joined waits for its own turn. -/
theorem task_step (hs : Documents.step s e = some s') (ht : s.tasks.get i = some (.joinAdd c))
    (hother : ∀ allowed, e ≠ .resume i allowed) : s'.tasks.get i = some (.joinAdd c) := by
  have hnew : ∀ {j}, s.idle j = true → i ≠ j := by
    rintro j hidle rfl
    cases ht.symm.trans (idle_iff.1 hidle).1
  have hold : ∀ {j allowed}, e = .resume j allowed → i ≠ j := by
    rintro j allowed he rfl
    exact hother allowed he
  cases step_outcome hs with
  | connect | stay | close | update | tick | service => exact ht
  | join hidle => exact (get_goto (hnew hidle)).trans ht
  | leave hidle => exact (get_goto (hnew hidle)).trans ht
  | drop hidle => exact (get_goto (hnew hidle)).trans ht
  | known | check | refuse | retain | enter | add | lost | release => exact (get_goto (hold rfl)).trans ht

theorem disconnect_gone (hs : Documents.step s (.disconnect i c) = some s') : Gone s' c := by
  cases step_outcome hs with
  | drop => exact ⟨_, get_setSock_self _, rfl⟩
  | close => exact ⟨_, get_setSock_self _, rfl⟩

/-- A socket that has joined after a step had joined before, or its join has just been marked. -/
theorem active_step (hs : Documents.step s e = some s') (hc : Active s' c) :
    (Active s c ∧ (∀ i, e ≠ .disconnect i c) ∧ ∀ i, e = .leave i c → (s.sockets.get c).any (·.joined) = false) ∨
      ∃ i allowed, e = .resume i allowed ∧ s.tasks.get i = some (.joinAdd c) := by
  obtain ⟨k', hk', hactive⟩ := hc
  have hparts : k'.connected = true ∧ k'.joined = true := Bool.and_eq_true_iff.1 hactive
  rcases socket_step (c := c) hs with hsame | ⟨-, -, hnew⟩ | ⟨k, hk, ⟨i, -, -, -, hleft⟩ | ⟨i, -, hgone⟩ | hjoin⟩
  · have hk : s.sockets.get c = some k' := hsame.symm.trans hk'
    refine .inl ⟨⟨k', hk, hactive⟩, ?_, ?_⟩
    · rintro i rfl
      obtain ⟨l, hl, hgone⟩ := disconnect_gone hs
      rw [hk', Option.some.injEq] at hl
      rw [← hl, hparts.1] at hgone
      cases hgone
    · rintro i rfl
      cases step_outcome hs with
      | @leave _ _ k =>
        have hleft : some { k with joined := false } = some k' := (get_setSock_self _).symm.trans hk'
        rw [← Option.some.inj hleft] at hparts
        cases hparts.2
      | stay hl hjoined =>
        rw [hl, Option.any_some]
        exact hjoined
  · rw [hnew, Option.some.injEq] at hk'
    rw [← hk'] at hparts
    cases hparts.2
  · rw [hleft, Option.some.injEq] at hk'
    rw [← hk'] at hparts
    cases hparts.2
  · rw [hgone, Option.some.injEq] at hk'
    rw [← hk'] at hparts
    cases hparts.1
  · obtain ⟨i, allowed, he, ht, -⟩ := hjoin
    exact .inr ⟨i, allowed, he, ht⟩

/-- A socket that has gone does not come back. -/
theorem gone_step (hs : Documents.step s e = some s') (hc : Gone s c) : Gone s' c := by
  obtain ⟨k, hk, hgone⟩ := hc
  rcases socket_step (c := c) hs with hsame | ⟨-, hnone, -⟩ |
    ⟨l, hl, ⟨i, -, -, hconnected, -⟩ | ⟨i, -, hafter⟩ | ⟨i, allowed, -, -, hafter⟩⟩
  · exact ⟨k, hsame.trans hk, hgone⟩
  · rw [hk] at hnone
    cases hnone
  · rw [hk, Option.some.injEq] at hl
    rw [← hl, hgone] at hconnected
    cases hconnected
  · exact ⟨_, hafter, rfl⟩
  · rw [hk, Option.some.injEq] at hl
    exact ⟨_, hafter, by rw [← hl]; exact hgone⟩

end Steps

/-! ## What follows a step -/

namespace State

variable {W : Serving V} {s : State V} {c x : Nat} {first : Bool}

@[simp] theorem base_sendState : (s.sendState W c first).base = s.base := by
  unfold sendState
  split <;> rfl

@[simp] theorem room_sendState : (s.sendState W c first).room = s.room := by
  unfold sendState
  split <;> rfl

@[simp] theorem entered_sendState : (s.sendState W c first).entered = s.entered := by
  unfold sendState
  split <;> rfl

@[simp] theorem merged_sendState : (s.sendState W c first).merged = s.merged := by
  unfold sendState
  split <;> rfl

theorem viewers_sendState_of_ne (h : x ≠ c) : (s.sendState W c first).viewers x = s.viewers x := by
  unfold sendState
  split
  · exact Function.update_of_ne h ..
  · rfl

theorem viewers_sendState_self {content : Content} (h : s.contents W = some content) :
    (s.sendState W c first).viewers c = (s.viewers c).push (.state first content) := by
  unfold sendState
  rw [h]
  exact Function.update_self ..

@[simp] theorem base_follow {base : Documents.State V} {e : Documents.Event V} : (s.follow W base e).base = base := by
  unfold follow
  split
  · split <;> rfl
  · rfl
  · rfl
  · split
    · split
      · rw [base_sendState]
      · rfl
    · exact base_sendState
    · rfl
  · rfl

/-- Once everything has arrived the socket has the registered document. -/
def Sees (W : Serving V) (s : State V) (c : Nat) : Prop :=
  ∃ content view, s.contents W = some content ∧ (s.viewers c).drained = some view ∧
    view ∪ (s.viewers c).own = content

theorem Sees.congr {s' : State V} (h : s.Sees W c) (hcontents : s'.contents W = s.contents W)
    (hviewer : s'.viewers c = s.viewers c) : s'.Sees W c := by
  obtain ⟨content, view, hcontent, hview, hall⟩ := h
  exact ⟨content, view, hcontents.trans hcontent, by rw [hviewer]; exact hview, by rw [hviewer]; exact hall⟩

theorem contents_congr {s' : State V} (hentry : W.entry s'.base.docs = W.entry s.base.docs)
    (hmerged : s'.merged = s.merged) : s'.contents W = s.contents W := by
  unfold contents
  rw [hentry, hmerged]

/-- A state sent again takes nothing away. -/
theorem Sees.sendState (h : s.Sees W x) : (s.sendState W c false).Sees W x := by
  have hcontents : (s.sendState W c false).contents W = s.contents W :=
    contents_congr (by rw [base_sendState]) merged_sendState
  by_cases hx : x = c
  · subst hx
    obtain ⟨content, view, hcontent, hview, hall⟩ := h
    refine ⟨content, view ∪ content, hcontents.trans hcontent, ?_, ?_⟩
    · rw [viewers_sendState_self hcontent, Viewer.drained_push, hview]
      rfl
    · rw [viewers_sendState_self hcontent, Viewer.own_push, Finset.union_right_comm, hall, Finset.union_self]
  · exact h.congr hcontents (viewers_sendState_of_ne hx)

/-- A socket that has joined sees the document. -/
theorem welcome_sees {content : Content} (h : s.contents W = some content) : (s.welcome W c).Sees W c := by
  have hfresh : (s.setViewer c { s.viewers c with view := none, own := ∅ }).contents W = some content := h
  refine ⟨content, content, ?_, ?_, ?_⟩
  · unfold welcome
    rw [← hfresh]
    exact contents_congr (by rw [base_sendState]) merged_sendState
  · unfold welcome
    rw [viewers_sendState_self hfresh, Viewer.drained_push]
    rfl
  · unfold welcome
    rw [viewers_sendState_self hfresh, Viewer.own_push]
    show content ∪ (Function.update s.viewers c _ c).own = content
    rw [Function.update_self]
    exact Finset.union_empty content

theorem welcome_other (h : s.Sees W x) (hx : x ≠ c) : (s.welcome W c).Sees W x := by
  refine h.congr ?_ ?_
  · unfold welcome
    refine (contents_congr (by rw [base_sendState]) merged_sendState).trans ?_
    rfl
  · unfold welcome
    exact (viewers_sendState_of_ne hx).trans (Function.update_of_ne hx ..)

/-- An update reaches everyone in the room. -/
theorem Sees.post (hW : Steady W) {d : V.State} {u : V.Update} (h : s.Sees W x) (hroom : x ∈ s.room)
    (hentry : W.entry s.base.docs = W.entry d) : (s.post W d c u).Sees W x := by
  obtain ⟨content, view, hcontent, hview, hall⟩ := h
  obtain ⟨e, he, hcontent'⟩ := Option.map_eq_some_iff.1 hcontent
  have hd : W.entry d = some e := hentry.symm.trans he
  have hagrees : W.relays d u = W.applies d u := hW.agrees d u (by rw [hd]; rfl)
  cases happlies : W.applies d u with
  | false =>
    refine ⟨content, view, ?_, ?_, ?_⟩
    · refine .trans ?_ hcontent
      refine contents_congr rfl ?_
      show (match W.entry d with | some e => _ | none => _) = _
      rw [hd, happlies]
      rfl
    · simp only [State.post, hagrees, happlies, Bool.false_eq_true, if_false]
      exact hview
    · simp only [State.post, hagrees, happlies, Bool.false_eq_true, if_false]
      exact hall
  | true =>
    refine ⟨insert (.update s.next) content, ?_⟩
    have hmore : (s.post W d c u).contents W = some (insert (.update s.next) content) := by
      show (W.entry s.base.docs).map _ = _
      rw [he, ← hcontent']
      simp only [State.post, hd, happlies, if_true, Option.map_some, Function.update_self]
      rw [Finset.insert_comm]
    by_cases hown : x = c ∧ W.echoes u = false
    · refine ⟨view, hmore, ?_, ?_⟩
      · simp only [State.post, hagrees, happlies, if_true, if_pos hown]
        exact hview
      · simp only [State.post, hagrees, happlies, if_true, if_pos hown]
        rw [Finset.union_insert, hall]
    · have hin : s.room.contains x = true := List.contains_iff_mem.2 hroom
      refine ⟨insert (.update s.next) view, hmore, ?_, ?_⟩
      · simp only [State.post, hagrees, happlies, if_true, if_neg hown, hin, Viewer.drained_push]
        rw [hview]
        rfl
      · simp only [State.post, hagrees, happlies, if_true, if_neg hown, hin, Viewer.own_push]
        rw [Finset.insert_union, hall]

end State

/-! ## The invariant -/

/-- Whoever has joined is in the room and sees the document; a join that has entered the room keeps its socket there,
as long as that is connected. -/
structure Inv (I : V.State → Prop) (W : Serving V) (s : State V) : Prop where
  held : Held I s.base
  entered : ∀ i ∈ s.entered, ∃ c, s.base.tasks.get i = some (.joinAdd c) ∧ (c ∈ s.room ∨ Gone s.base c)
  room : ∀ c, Active s.base c → c ∈ s.room
  sees : ∀ c, Active s.base c → s.Sees W c

namespace State

variable {W : Serving V} {s : State V} {base : Documents.State V} {e : Documents.Event V} {c i : Nat}

theorem room_follow (h : c ∈ s.room) (hdisconnect : ∀ i, e ≠ .disconnect i c)
    (hleave : ∀ i, e = .leave i c → s.hasJoined c = false) : c ∈ (s.follow W base e).room := by
  have hstays : ∀ {d}, c ≠ d → c ∈ (leaveRoom { s with base } d).room := fun hne =>
    List.mem_filter.2 ⟨h, bne_iff_ne.2 hne⟩
  cases e with
  | leave j d =>
    simp only [follow]
    split
    · next hjoined =>
      refine hstays ?_
      rintro rfl
      rw [hleave j rfl] at hjoined
      cases hjoined
    · exact h
  | disconnect j d =>
    refine hstays ?_
    rintro rfl
    exact hdisconnect j rfl
  | resume j allowed =>
    simp only [follow]
    split
    · split
      · rw [room_sendState]
        exact h
      · exact h
    · unfold welcome
      rw [room_sendState]
      exact h
    · exact h
  | connect d => exact h
  | join j d => exact h
  | update d u => exact h
  | tick j => exact h
  | service f => exact h

theorem entered_follow (h : i ∈ (s.follow W base e).entered) :
    i ∈ s.entered ∧ ∀ allowed c, e = .resume i allowed → s.base.tasks.get i ≠ some (.joinAdd c) := by
  cases e with
  | resume j allowed =>
    simp only [follow] at h
    split at h
    · next ht =>
      have hi : i ∈ s.entered := by
        split at h
        · rw [entered_sendState] at h
          exact h
        · exact h
      refine ⟨hi, ?_⟩
      rintro - c ⟨⟩ hjoin
      rw [ht] at hjoin
      cases hjoin
    · unfold welcome at h
      rw [entered_sendState] at h
      obtain ⟨hi, hne⟩ := List.mem_filter.1 h
      refine ⟨hi, ?_⟩
      rintro - c ⟨⟩ -
      exact bne_iff_ne.1 hne rfl
    · next hother =>
      refine ⟨h, ?_⟩
      rintro - c ⟨⟩ hjoin
      exact hother c hjoin
  | leave j d =>
    refine ⟨?_, fun _ _ he => by cases he⟩
    simp only [follow] at h
    split at h <;> exact h
  | disconnect j d => exact ⟨h, fun _ _ he => by cases he⟩
  | connect d => exact ⟨h, fun _ _ he => by cases he⟩
  | join j d => exact ⟨h, fun _ _ he => by cases he⟩
  | update d u => exact ⟨h, fun _ _ he => by cases he⟩
  | tick j => exact ⟨h, fun _ _ he => by cases he⟩
  | service f => exact ⟨h, fun _ _ he => by cases he⟩

/-- Who sees the document of the state before sees that of the state after. -/
theorem Sees.follow (hW : Steady W) (h : ({ s with base } : State V).Sees W c) (hroom : c ∈ s.room)
    (hentry : W.entry base.docs = W.entry s.base.docs) : (s.follow W base e).Sees W c := by
  cases e with
  | leave j d =>
    simp only [State.follow]
    split
    · exact h.congr rfl rfl
    · exact h
  | disconnect j d => exact h.congr rfl rfl
  | update d u => exact h.post hW hroom hentry
  | resume j allowed =>
    simp only [State.follow]
    split
    · split
      · exact h.sendState
      · exact h
    · next d _ =>
      by_cases hcd : c = d
      · subst hcd
        obtain ⟨content, -, hcontent, -⟩ := h
        exact welcome_sees hcontent
      · refine welcome_other ?_ hcd
        exact h.congr rfl rfl
    · exact h
  | connect d => exact h
  | join j d => exact h
  | tick j => exact h
  | service f => exact h

end State

theorem Inv.act {W : Serving V} (hV : Sound V I) (hW : Steady W) {s : State V} {base : Documents.State V}
    {e : Documents.Event V} (h : Inv I W s) (hok : servedOn s (.act e) = true) (hready : s.ready e = true)
    (hs : Documents.step s.base e = some base) : Inv I W (s.follow W base e) := by
  have hheld : Held I base := by
    refine h.held.step hV (fun i allowed he ht => ?_) (fun f he => ?_) hs
    · subst he
      rcases ht with ht | ht
      · simpa only [servedOn, ht] using hok
      · simpa only [servedOn, ht] using hok
    · subst he
      exact hok
  have hjoins : ∀ {c i allowed}, e = .resume i allowed → s.base.tasks.get i = some (.joinAdd c) → Active base c →
      c ∈ s.room := by
    rintro c i allowed rfl ht ⟨k, hk, hactive⟩
    simp only [State.ready, ht] at hready
    obtain ⟨d, hd, hroom⟩ := h.entered i (List.contains_iff_mem.1 hready)
    rw [ht, Option.some.injEq, Documents.Task.joinAdd.injEq] at hd
    subst hd
    rcases hroom with hroom | hgone
    · exact hroom
    · obtain ⟨l, hl, hgone⟩ := gone_step hs hgone
      rw [hk, Option.some.injEq] at hl
      have hconnected := (Bool.and_eq_true_iff.1 hactive).1
      rw [hl, hgone] at hconnected
      cases hconnected
  constructor
  · rw [State.base_follow]
    exact hheld
  · intro i hi
    obtain ⟨hold, hother⟩ := State.entered_follow hi
    obtain ⟨c, ht, hroom⟩ := h.entered i hold
    rw [State.base_follow]
    refine ⟨c, task_step hs ht fun allowed he => hother allowed c he ht, ?_⟩
    rcases hroom with hroom | hgone
    · by_cases hdisconnect : ∃ j, e = .disconnect j c
      · obtain ⟨j, rfl⟩ := hdisconnect
        exact .inr (disconnect_gone hs)
      · refine .inl (State.room_follow hroom (fun j he => hdisconnect ⟨j, he⟩) ?_)
        rintro j rfl
        simp only [servedOn] at hok
        rw [Bool.or_eq_true, Bool.not_eq_true'] at hok
        refine hok.resolve_right fun hall => ?_
        have hne := List.all_eq_true.1 hall i hold
        rw [bne_iff_ne] at hne
        exact hne ht
    · exact .inr (gone_step hs hgone)
  · intro c hc
    rw [State.base_follow] at hc
    rcases active_step hs hc with ⟨hbefore, hdisconnect, hleave⟩ | ⟨i, allowed, rfl, ht⟩
    · exact State.room_follow (h.room c hbefore) hdisconnect hleave
    · exact State.room_follow (hjoins rfl ht hc) (by rintro j ⟨⟩) (by rintro j ⟨⟩)
  · intro c hc
    rw [State.base_follow] at hc
    obtain ⟨hentry, hsome⟩ := entry_kept hW hs hheld hc.holders_pos
    rcases active_step hs hc with ⟨hbefore, -, -⟩ | ⟨i, allowed, rfl, ht⟩
    · refine State.Sees.follow hW ?_ (h.room c hbefore) hentry
      exact (h.sees c hbefore).congr (State.contents_congr hentry rfl) rfl
    · obtain ⟨n, hn⟩ := Option.isSome_iff_exists.1 hsome
      have hcontent : ∀ s' : State V, s'.base = base → s'.contents W = some (insert (.loaded n) (s'.merged n)) := by
        rintro s' rfl
        unfold State.contents
        rw [hn]
        rfl
      simp only [State.follow, ht]
      exact State.welcome_sees (hcontent _ rfl)

theorem Inv.step {W : Serving V} (hV : Sound V I) (hW : Steady W) {s s' : State V} {e : Event V} (h : Inv I W s)
    (hok : servedOn s e = true) (hs : step W s e = some s') : Inv I W s' := by
  cases e with
  | act e =>
    unfold Viewers.step at hs
    dsimp only at hs
    split at hs
    · next hready =>
      obtain ⟨base, hbase, rfl⟩ := Option.map_eq_some_iff.1 hs
      exact h.act hV hW hok hready hbase
    · cases hs
  | enter i =>
    unfold Viewers.step at hs
    dsimp only at hs
    split at hs
    · next c ht =>
      split at hs
      · cases hs
      · cases hs
        refine ⟨h.held, fun j hj => ?_, fun d hd => List.mem_cons_of_mem _ (h.room d hd),
          fun d hd => (h.sees d hd).congr rfl rfl⟩
        rcases List.mem_cons.1 hj with rfl | hold
        · exact ⟨c, ht, .inl List.mem_cons_self⟩
        · obtain ⟨d, hd, hroom⟩ := h.entered j hold
          exact ⟨d, hd, hroom.imp_left (List.mem_cons_of_mem _)⟩
    · cases hs
  | deliver c =>
    unfold Viewers.step at hs
    dsimp only at hs
    split at hs
    · cases hs
    · next p queue hqueue =>
      cases hs
      refine ⟨h.held, h.entered, h.room, fun d hd => ?_⟩
      by_cases hdc : d = c
      · subst hdc
        obtain ⟨content, view, hcontent, hview, hall⟩ := h.sees d hd
        refine ⟨content, view, hcontent, ?_, ?_⟩
        · show Viewer.drained (Function.update s.viewers d _ d) = _
          rw [Function.update_self, ← hview]
          unfold Viewer.drained
          rw [hqueue]
          rfl
        · show view ∪ (Function.update s.viewers d _ d).own = _
          rw [Function.update_self]
          exact hall
      · exact (h.sees d hd).congr rfl (Function.update_of_ne hdc ..)

theorem init_inv {W : Serving V} (hV : Sound V I) : Inv I W (init V) :=
  ⟨Held.init hV, fun _ hi => absurd hi List.not_mem_nil, fun _ hc => (by obtain ⟨k, hk, -⟩ := hc; cases hk),
    fun _ hc => (by obtain ⟨k, hk, -⟩ := hc; cases hk)⟩

theorem Inv.converged {W : Serving V} {s : State V} (h : Inv I W s) : Converged W s := by
  intro c k hk hactive hqueue
  obtain ⟨content, view, hcontent, hview, hall⟩ := h.sees c ⟨k, hk, hactive⟩
  unfold Viewer.drained at hview
  rw [hqueue] at hview
  exact ⟨content, view, hcontent, hview, hall⟩

/-- Over a service that counts right and keeps its entry, viewers converge in every run that serves them on. -/
theorem viewers_converge {W : Serving V} (hV : Sound V I) (hW : Steady W) {es : List (Event V)} {s : State V}
    (hok : Meets (step W) (fun s e => servedOn s e = true) (init V) es)
    (h : TransSys.run (step W) (init V) es = some s) : Converged W s :=
  (TransSys.run_inv (fun _ _ _ hi hie hs => hi.step hV hW hie hs) (init_inv hV) hok h).converged

end Livetich.Sockets.Viewers
