/-
The five gateways as one kind of machine: sockets that connect with a token, the middleware
`authenticate` installs with `client.use` before the account is checked, and the handlers behind it,
which run from one awaited answer to the next. The middleware runs on every packet before its
handler does.

A gateway with sockets of its own is given by its parties: the data of each socket, what they
share, and the handlers on the two.
-/
import Mathlib.Logic.Function.Basic
import Livetich.Lib.Purge
import Livetich.Model

namespace Livetich.Sockets

open Purge

/-! ## Middleware -/

/-- A function passed to `client.use`. -/
inductive Middleware
  /-- The recorder filter: any other event is dropped. -/
  | only (event : String)
  /-- The rate limiter: at most `max` packets a second. -/
  | limit (max : Nat)

/-- A middleware with the variables it closes over. -/
inductive Installed
  | only (event : String)
  | limit (max packetCount windowReset : Nat)

def Middleware.install (now : Nat) : Middleware → Installed
  | .only event => .only event
  | .limit max => .limit max 0 now

/-- Whether `next` is called, and the variables after the packet. -/
def Installed.pass (now : Nat) (event : String) : Installed → Bool × Installed
  | .only e => (event == e, .only e)
  | .limit max packetCount windowReset =>
    let window := if now - windowReset > 1000 then (0, now) else (packetCount, windowReset)
    (window.1 + 1 ≤ max, .limit max (window.1 + 1) window.2)

/-- A packet goes through the middleware in order. -/
def dispatch (now : Nat) (event : String) : List Installed → Bool × List Installed
  | [] => (true, [])
  | m :: rest =>
    let r := m.pass now event
    if r.1 then
      let after := dispatch now event rest
      (after.1, r.2 :: after.2)
    else (false, r.2 :: rest)

theorem dispatch_only_of_ne (now : Nat) {event e : String} (h : event ≠ e) (rest : List Installed) :
    dispatch now event (.only e :: rest) = (false, .only e :: rest) := by
  simp [dispatch, Installed.pass, h]

theorem dispatch_only (now : Nat) (event e : String) (rest : List Installed) :
    ∃ rest', (dispatch now event (.only e :: rest)).2 = .only e :: rest' := by
  unfold dispatch
  by_cases h : (event == e) = true
  · simp [Installed.pass, h]
  · simp [Installed.pass, h]

/-! ## Gateways -/

/-- What a gateway does behind its middleware. -/
structure Handlers where
  World : Type
  Message : Type
  /-- Anything else that can happen: an awaited answer, a timer, a request of another module. -/
  Internal : Type
  Shown : Type
  init : World
  event : Message → String
  /-- `authenticate` sets the socket's data. -/
  connect : World → SocketId → JwtPayload → World
  /-- `authReady` settles with what the account check says. -/
  settle : World → SocketId → Bool → World
  receive : World → (now : Nat) → SocketId → Message → World
  internal : World → Internal → World
  /-- `handleDisconnect`. -/
  disconnect : World → SocketId → World
  /-- The state the class sees. -/
  shown : World → Shown

structure Gateway extends Handlers where
  /-- The event that joins a session. -/
  join : String
  middleware : JwtPayload → List Middleware

/-- A socket's connection. Socket ids are never used twice. -/
inductive Conn
  | fresh
  | live (chain : List Installed)
  | closed

structure State (g : Gateway) where
  conns : SocketId → Conn
  world : g.World

inductive Event (g : Gateway)
  | connect (c : SocketId) (now : Nat) (user : JwtPayload)
  | account (c : SocketId) (permitted : Bool)
  | packet (c : SocketId) (now : Nat) (message : g.Message)
  | disconnect (c : SocketId)
  | internal (i : g.Internal)

variable {g : Gateway}

namespace State

def init (g : Gateway) : State g := ⟨fun _ => .fresh, g.init⟩

def setConn (s : State g) (c : SocketId) (conn : Conn) : State g :=
  { s with conns := Function.update s.conns c conn }

@[simp] theorem setConn_world (s : State g) (c : SocketId) (conn : Conn) :
    (s.setConn c conn).world = s.world := rfl

@[simp] theorem setConn_self (s : State g) (c : SocketId) (conn : Conn) :
    (s.setConn c conn).conns c = conn :=
  Function.update_self ..

theorem setConn_of_ne (s : State g) {c d : SocketId} (conn : Conn) (h : d ≠ c) :
    (s.setConn c conn).conns d = s.conns d :=
  Function.update_of_ne h ..

def setWorld (s : State g) (world : g.World) : State g := { s with world := world }

@[simp] theorem setWorld_conns (s : State g) (world : g.World) : (s.setWorld world).conns = s.conns :=
  rfl

@[simp] theorem setWorld_world (s : State g) (world : g.World) : (s.setWorld world).world = world :=
  rfl

/-- A live connection goes: `handleDisconnect` runs. -/
def close (s : State g) (c : SocketId) : State g :=
  (s.setWorld (g.disconnect s.world c)).setConn c .closed

end State

/-- `authenticate` once the token is verified: a preview token is turned away. -/
def connect (s : State g) (c : SocketId) (now : Nat) (user : JwtPayload) : State g :=
  match s.conns c with
  | .fresh =>
    if user.preview.isSome then s.setConn c .closed
    else (s.setWorld (g.connect s.world c user)).setConn c
      (.live ((g.middleware user).map (Middleware.install now)))
  | _ => s

/-- The account check answers; an account that is not permitted is disconnected. -/
def account (s : State g) (c : SocketId) (permitted : Bool) : State g :=
  let settled := s.setWorld (g.settle s.world c permitted)
  match s.conns c with
  | .fresh => s
  | .live _ => if permitted then settled else settled.close c
  | .closed => settled

def packet (s : State g) (c : SocketId) (now : Nat) (message : g.Message) : State g :=
  match s.conns c with
  | .live chain =>
    let r := dispatch now (g.event message) chain
    let s := s.setConn c (.live r.2)
    if r.1 then s.setWorld (g.receive s.world now c message) else s
  | _ => s

def disconnect (s : State g) (c : SocketId) : State g :=
  match s.conns c with
  | .live _ => s.close c
  | _ => s

def step (s : State g) : Event g → State g
  | .connect c now user => connect s c now user
  | .account c permitted => account s c permitted
  | .packet c now message => packet s c now message
  | .disconnect c => disconnect s c
  | .internal i => s.setWorld (g.internal s.world i)

def run (g : Gateway) (es : List (Event g)) : State g := es.foldl step (State.init g)

/-! ## Silence -/

/-- The event is not a message, other than the join, of the socket. -/
def keeps (c : SocketId) : Event g → Bool
  | .packet d _ message => d != c || g.event message == g.join
  | _ => true

/-- The socket, where it connects, does so with the token. -/
def Holds (c : SocketId) (user : JwtPayload) : Event g → Prop
  | .connect d _ u => d = c → u = user
  | _ => True

/-- Whatever a socket with the token sends, the class sees what it would if the socket had sent
its join messages only. -/
def Silent (g : Gateway) (user : JwtPayload) : Prop :=
  ∀ (c : SocketId) (es : List (Event g)), (∀ e ∈ es, Holds c user e) →
    g.shown (run g es).world = g.shown (run g (es.filter (keeps c))).world

/-! ## Silence by the filter -/

/-- `authenticate` turns the token away, or installs the recorder filter before anything else. -/
def FiltersOrRefuses (g : Gateway) (user : JwtPayload) : Prop :=
  user.preview.isSome = true ∨ ∃ rest, g.middleware user = .only g.join :: rest

/-- The socket's packets meet the recorder filter first, if they arrive at all. -/
def Filtered (c : SocketId) (s : State g) : Prop :=
  ∀ chain, s.conns c = .live chain → ∃ rest, chain = .only g.join :: rest

theorem Filtered.of_conns {c : SocketId} {s t : State g} (h : Filtered c s)
    (heq : t.conns c = s.conns c) : Filtered c t := by
  intro chain hc
  exact h chain (heq ▸ hc)

theorem Filtered.setConn_of_ne {c d : SocketId} {s : State g} {conn : Conn} (h : Filtered c s)
    (hd : d ≠ c) : Filtered c (s.setConn d conn) :=
  h.of_conns (s.setConn_of_ne conn (Ne.symm hd))

theorem filtered_closed (c : SocketId) (s : State g) : Filtered c (s.setConn c .closed) := by
  intro chain hc
  rw [State.setConn_self] at hc
  cases hc

theorem Filtered.close {c : SocketId} {s : State g} (h : Filtered c s) (d : SocketId) :
    Filtered c (s.close d) := by
  by_cases hd : d = c
  · subst hd
    exact filtered_closed d _
  · exact Filtered.setConn_of_ne (s := s.setWorld _) h hd

variable {user : JwtPayload}

theorem Filtered.connect {c : SocketId} {s : State g} (h : Filtered c s)
    (hg : FiltersOrRefuses g user) {d : SocketId}
    {now : Nat} {u : JwtPayload} (hu : d = c → u = user) : Filtered c (connect s d now u) := by
  unfold Sockets.connect
  split
  · by_cases hd : d = c
    · subst hd
      cases hu rfl
      split
      · exact filtered_closed d s
      · rename_i hpreview
        obtain ⟨rest, hrest⟩ := hg.resolve_left hpreview
        intro chain hc
        rw [State.setConn_self] at hc
        cases hc
        exact ⟨rest.map (Middleware.install now), by rw [hrest]; rfl⟩
    · split
      · exact h.setConn_of_ne hd
      · exact Filtered.setConn_of_ne (s := s.setWorld _) h hd
  · exact h

theorem Filtered.packet {c : SocketId} {s : State g} (h : Filtered c s) (d : SocketId) (now : Nat)
    (message : g.Message) : Filtered c (packet s d now message) := by
  unfold Sockets.packet
  split
  · rename_i chain hchain
    refine Filtered.of_conns (s := s.setConn d (.live (dispatch now (g.event message) chain).2)) ?_
      (by dsimp only; split <;> rfl)
    by_cases hd : d = c
    · subst hd
      obtain ⟨rest, rfl⟩ := h chain hchain
      obtain ⟨rest', hrest'⟩ := dispatch_only now (g.event message) g.join rest
      intro chain' hc
      rw [State.setConn_self] at hc
      cases hc
      exact ⟨rest', hrest'⟩
    · exact h.setConn_of_ne hd
  · exact h

theorem Filtered.account {c : SocketId} {s : State g} (h : Filtered c s) (d : SocketId)
    (permitted : Bool) : Filtered c (account s d permitted) := by
  unfold Sockets.account
  split
  · exact h
  · dsimp only
    split
    · exact h.of_conns rfl
    · exact Filtered.close (s := s.setWorld _) h d
  · exact h.of_conns rfl

theorem Filtered.disconnect {c : SocketId} {s : State g} (h : Filtered c s) (d : SocketId) :
    Filtered c (disconnect s d) := by
  unfold Sockets.disconnect
  split
  · exact h.close d
  · exact h

theorem Filtered.step {c : SocketId} {s : State g} {e : Event g}
    (hg : FiltersOrRefuses g user) (he : Holds c user e)
    (h : Filtered c s) : Filtered c (step s e) := by
  cases e with
  | connect d now u => exact h.connect hg he
  | account d permitted => exact h.account d permitted
  | packet d now message => exact h.packet d now message
  | disconnect d => exact h.disconnect d
  | internal i => exact h.of_conns rfl

/-- The filter drops the packet and is left as it was. -/
theorem Filtered.packet_dropped {c : SocketId} {s : State g} (h : Filtered c s) (now : Nat)
    {message : g.Message} (hne : g.event message ≠ g.join) : Sockets.packet s c now message = s := by
  unfold Sockets.packet
  split
  · rename_i chain hchain
    obtain ⟨rest, rfl⟩ := h chain hchain
    simp only [dispatch_only_of_ne now hne rest, Bool.false_eq_true, if_false]
    unfold State.setConn
    rw [← hchain, Function.update_eq_self]
  · rfl

theorem Filtered.step_dropped {c : SocketId} {s : State g} {e : Event g} (hk : keeps c e = false)
    (h : Filtered c s) : Sockets.step s e = s := by
  cases e with
  | packet d now message =>
    simp only [keeps, Bool.or_eq_false_iff, bne_eq_false_iff_eq, beq_eq_false_iff_ne] at hk
    obtain ⟨rfl, hne⟩ := hk
    exact h.packet_dropped now hne
  | connect d now u => cases hk
  | account d permitted => cases hk
  | disconnect d => cases hk
  | internal i => cases hk

/-- A socket that meets the recorder filter first is silent, whatever the handlers do. -/
theorem FiltersOrRefuses.silent (hg : FiltersOrRefuses g user) : Silent g user := by
  intro c es hes
  have hstart : Filtered c (State.init g) := by
    intro chain hc
    cases hc
  have hunwind : Unwinding (step (g := g)) (keeps c) (Holds c user) fun s t => s = t ∧ Filtered c s :=
    unwinding_of_ignored (fun he h => h.step hg he) (fun hk h => h.step_dropped hk)
  have hrun := hunwind.run hes ⟨rfl, hstart⟩
  exact congrArg (fun s => g.shown s.world) hrun.1

end Livetich.Sockets
