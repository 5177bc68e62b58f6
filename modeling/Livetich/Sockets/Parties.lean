/-
Gateways whose handlers work on the data of the socket they are called for and on what the sockets
share. A socket whose own handlers leave the shared state alone is silent, and for that an
invariant of the shared state may be used that the handlers of all other sockets keep.
-/
import Livetich.Sockets.Model

namespace Livetich.Sockets

open Purge

/-! ## Parties -/

/-- What `fail` emits to the caller; the call changes nothing. -/
structure Failure where
  code : String
  message : String
  deriving DecidableEq

/-- A handler that leaves the socket's data alone. -/
theorem map_eq_ok {α β : Type} {f : α → β} {x : Except Failure α} {b : β} (h : f <$> x = .ok b) :
    ∃ a, x = .ok a ∧ f a = b := by
  cases x with
  | error e => cases h
  | ok a =>
    cases h
    exact ⟨a, rfl, rfl⟩

structure Parties where
  Sock : Type
  Shared : Type
  Message : Type
  /-- How a call that a handler of the socket awaits is answered. -/
  Answer : Type
  /-- What happens to the shared state by itself. -/
  Background : Type
  Shown : Type
  start : Shared
  event : Message → String
  /-- The data `authenticate` sets. -/
  enter : JwtPayload → Sock
  settle : Sock → Bool → Sock
  receive : SocketId → (now : Nat) → Sock → Shared → Message → Except Failure (Sock × Shared)
  resume : SocketId → Sock → Shared → Answer → Sock × Shared
  disconnect : SocketId → Sock → Shared → Sock × Shared
  background : Shared → Background → Shared
  shown : Shared → Shown

namespace Parties

structure World (p : Parties) where
  sockets : SocketId → Option p.Sock
  shared : p.Shared

/-- A handler of the socket has run. -/
def World.put {p : Parties} (w : p.World) (c : SocketId) (r : p.Sock × p.Shared) : p.World :=
  ⟨Function.update w.sockets c (some r.1), r.2⟩

/-- A part of a handler that runs for one socket. -/
inductive Act (p : Parties)
  | settle (permitted : Bool)
  | receive (now : Nat) (message : p.Message)
  | resume (answer : p.Answer)
  | disconnect

inductive Internal (p : Parties)
  | resume (c : SocketId) (answer : p.Answer)
  | background (b : p.Background)

variable {p : Parties}

def perform (p : Parties) (c : SocketId) (k : p.Sock) (shared : p.Shared) : p.Act → p.Sock × p.Shared
  | .settle permitted => (p.settle k permitted, shared)
  | .receive now message => match p.receive c now k shared message with
    | .ok r => r
    | .error _ => (k, shared)
  | .resume answer => p.resume c k shared answer
  | .disconnect => p.disconnect c k shared

/-- A message is refused, or its handler returns. -/
theorem perform_receive (p : Parties) (c : SocketId) (now : Nat) (k : p.Sock) (shared : p.Shared)
    (message : p.Message) : p.perform c k shared (.receive now message) = (k, shared) ∨
      p.receive c now k shared message = .ok (p.perform c k shared (.receive now message)) := by
  unfold perform
  dsimp only
  cases p.receive c now k shared message with
  | error e => exact .inl rfl
  | ok r => exact .inr rfl

theorem perform_of_ok {c : SocketId} {now : Nat} {k : p.Sock} {shared : p.Shared} {message : p.Message}
    {r : p.Sock × p.Shared} (h : p.receive c now k shared message = .ok r) :
    p.perform c k shared (.receive now message) = r := by
  unfold perform
  dsimp only
  rw [h]

def act (w : p.World) (c : SocketId) (a : p.Act) : p.World :=
  match w.sockets c with
  | some k => w.put c (p.perform c k w.shared a)
  | none => w

@[reducible] def handlers (p : Parties) : Handlers where
  World := p.World
  Message := p.Message
  Internal := p.Internal
  Shown := p.Shown
  init := ⟨fun _ => none, p.start⟩
  event := p.event
  connect w c user := w.put c (p.enter user, w.shared)
  settle w c permitted := act w c (.settle permitted)
  receive w now c message := act w c (.receive now message)
  internal w
    | .resume c answer => act w c (.resume answer)
    | .background b => { w with shared := p.background w.shared b }
  disconnect w c := act w c .disconnect
  shown w := p.shown w.shared

@[reducible] def gateway (p : Parties) (join : String) (middleware : JwtPayload → List Middleware) : Gateway where
  toHandlers := p.handlers
  join := join
  middleware := middleware

/-! ## Harmless sockets -/

/-- The handlers of a socket leave the shared state alone: `J` is kept of the socket's data, and
`I` of the shared state by everything else. -/
structure Harmless (p : Parties) (c : SocketId) (user : JwtPayload) (J : p.Sock → Prop)
    (I : p.Shared → Prop) : Prop where
  start : I p.start
  enter : J (p.enter user)
  own : ∀ {k shared a}, J k → I shared →
    J (p.perform c k shared a).1 ∧ (p.perform c k shared a).2 = shared
  others : ∀ {d k shared a}, d ≠ c → I shared → I (p.perform d k shared a).2
  background : ∀ {shared b}, I shared → I (p.background shared b)

variable {join : String} {middleware : JwtPayload → List Middleware} {c : SocketId}
  {J : p.Sock → Prop} {I : p.Shared → Prop} {user : JwtPayload}

/-- Two states differ in socket `c` only. -/
structure Alike (c : SocketId) (J : p.Sock → Prop) (I : p.Shared → Prop)
    (s t : State (p.gateway join middleware)) : Prop where
  conns : ∀ d, d ≠ c → s.conns d = t.conns d
  sockets : ∀ d, d ≠ c → s.world.sockets d = t.world.sockets d
  shared : s.world.shared = t.world.shared
  left : ∀ k, s.world.sockets c = some k → J k
  right : ∀ k, t.world.sockets c = some k → J k
  inv : I s.world.shared

variable {s t : State (p.gateway join middleware)}

theorem Alike.symm (h : Alike c J I s t) : Alike c J I t s :=
  ⟨fun d hd => (h.conns d hd).symm, fun d hd => (h.sockets d hd).symm, h.shared.symm, h.right, h.left,
    h.shared ▸ h.inv⟩

theorem Alike.setConn (h : Alike c J I s t) (conn : Conn) : Alike c J I (s.setConn c conn) t :=
  { h with conns := fun d hd => by rw [s.setConn_of_ne conn hd]; exact h.conns d hd }

theorem Alike.setConn_both (h : Alike c J I s t) (d : SocketId) (conn : Conn) :
    Alike c J I (s.setConn d conn) (t.setConn d conn) where
  conns := by
    intro e he
    by_cases hed : e = d
    · subst hed
      rw [State.setConn_self, State.setConn_self]
    · rw [s.setConn_of_ne conn hed, t.setConn_of_ne conn hed]
      exact h.conns e he
  sockets := h.sockets
  shared := h.shared
  left := h.left
  right := h.right
  inv := h.inv

theorem Alike.put (h : Alike c J I s t) {r : p.Sock × p.Shared} (hJ : J r.1)
    (hr : r.2 = s.world.shared) : Alike c J I (s.setWorld (s.world.put c r)) t where
  conns := h.conns
  sockets := fun d hd => (Function.update_of_ne hd ..).trans (h.sockets d hd)
  shared := hr.trans h.shared
  left := by
    intro k hk
    cases (Function.update_self ..).symm.trans hk
    exact hJ
  right := h.right
  inv := by
    show I r.2
    rw [hr]
    exact h.inv

theorem Alike.put_both (h : Alike c J I s t) {d : SocketId} (hd : d ≠ c) {r : p.Sock × p.Shared}
    (hI : I r.2) : Alike c J I (s.setWorld (s.world.put d r)) (t.setWorld (t.world.put d r)) where
  conns := h.conns
  sockets := by
    intro e he
    show Function.update s.world.sockets d _ e = Function.update t.world.sockets d _ e
    by_cases hed : e = d
    · subst hed
      rw [Function.update_self, Function.update_self]
    · rw [Function.update_of_ne hed, Function.update_of_ne hed]
      exact h.sockets e he
  shared := rfl
  left := fun k hk => h.left k ((Function.update_of_ne (Ne.symm hd) ..).symm.trans hk)
  right := fun k hk => h.right k ((Function.update_of_ne (Ne.symm hd) ..).symm.trans hk)
  inv := hI

/-- Handlers of the socket itself keep a state alike. -/
theorem Alike.act (hp : p.Harmless c user J I) (h : Alike c J I s t) (a : p.Act) :
    Alike c J I (s.setWorld (Parties.act s.world c a)) t := by
  unfold Parties.act
  split
  · rename_i k hk
    obtain ⟨hJ, hshared⟩ := hp.own (a := a) (h.left k hk) h.inv
    exact h.put hJ hshared
  · exact h

/-- Handlers of another socket do the same on both sides. -/
theorem Alike.act_other (hp : p.Harmless c user J I) (h : Alike c J I s t) {d : SocketId} (hd : d ≠ c)
    (a : p.Act) : Alike c J I (s.setWorld (Parties.act s.world d a))
      (t.setWorld (Parties.act t.world d a)) := by
  unfold Parties.act
  rw [← h.sockets d hd, ← h.shared]
  cases s.world.sockets d with
  | none => exact h
  | some k => exact h.put_both hd (hp.others hd h.inv)

/-! ## Runs -/

/-- The event runs a part of the socket's own handlers. -/
def Own (c : SocketId) : Event (p.gateway join middleware) → Prop
  | .connect d _ _ | .account d _ | .packet d _ _ | .disconnect d => d = c
  | .internal (.resume d _) => d = c
  | .internal (.background _) => False

theorem Alike.connect (hp : p.Harmless c user J I) (h : Alike c J I s t) (now : Nat) :
    Alike c J I (Sockets.connect s c now user) t := by
  unfold Sockets.connect
  split
  · split
    · exact h.setConn .closed
    · exact (h.put hp.enter rfl).setConn _
  · exact h

theorem Alike.close (hp : p.Harmless c user J I) (h : Alike c J I s t) : Alike c J I (s.close c) t :=
  (h.act hp .disconnect).setConn .closed

theorem Alike.step_own (hp : p.Harmless c user J I) (h : Alike c J I s t)
    {e : Event (p.gateway join middleware)} (he : Own c e) (hu : Holds c user e) :
    Alike c J I (step s e) t := by
  cases e with
  | connect d now u =>
    cases he
    cases hu rfl
    exact h.connect hp now
  | account d permitted =>
    cases he
    have hsettled := h.act hp (.settle permitted)
    unfold step account
    dsimp only
    split
    · exact h
    · split
      · exact hsettled
      · exact hsettled.close hp
    · exact hsettled
  | packet d now message =>
    cases he
    unfold step packet
    dsimp only
    split
    · split
      · exact (h.setConn _).act hp (.receive now message)
      · exact h.setConn _
    · exact h
  | disconnect d =>
    cases he
    unfold step Sockets.disconnect
    dsimp only
    split
    · exact h.close hp
    · exact h
  | internal i =>
    cases i with
    | resume d answer =>
      cases he
      exact h.act hp (.resume answer)
    | background b => exact he.elim

theorem Alike.step_other (hp : p.Harmless c user J I) (h : Alike c J I s t)
    {e : Event (p.gateway join middleware)} (he : ¬ Own c e) : Alike c J I (step s e) (step t e) := by
  cases e with
  | connect d now u =>
    unfold step Sockets.connect
    dsimp only
    rw [← h.conns d he]
    split
    · split
      · exact h.setConn_both d .closed
      · rw [← h.shared]
        exact (h.put_both he h.inv).setConn_both d _
    · exact h
  | account d permitted =>
    have hsettled := h.act_other hp he (.settle permitted)
    unfold step account
    dsimp only
    rw [← h.conns d he]
    split
    · exact h
    · split
      · exact hsettled
      · exact (hsettled.act_other hp he .disconnect).setConn_both d .closed
    · exact hsettled
  | packet d now message =>
    unfold step packet
    dsimp only
    rw [← h.conns d he]
    split
    · split
      · exact (h.setConn_both d _).act_other hp he (.receive now message)
      · exact h.setConn_both d _
    · exact h
  | disconnect d =>
    unfold step Sockets.disconnect
    dsimp only
    rw [← h.conns d he]
    split
    · exact (h.act_other hp he .disconnect).setConn_both d .closed
    · exact h
  | internal i =>
    cases i with
    | resume d answer => exact h.act_other hp he (.resume answer)
    | background b =>
      refine ⟨h.conns, h.sockets, ?_, h.left, h.right, hp.background h.inv⟩
      show p.background s.world.shared b = p.background t.world.shared b
      rw [h.shared]

/-- Sockets whose handlers leave the shared state alone are silent. -/
theorem silent_of_harmless {J : SocketId → p.Sock → Prop} {I : SocketId → p.Shared → Prop}
    (hp : ∀ c, p.Harmless c user (J c) (I c)) : Silent (p.gateway join middleware) user := by
  intro c es hes
  have hunwind : Unwinding (step (g := p.gateway join middleware)) (keeps c) (Holds c user)
      (Alike c (J c) (I c)) := by
    refine ⟨fun {s t e} he _ h => ?_, fun {s t e} he hk h => ?_⟩
    · by_cases hown : Own c e
      · exact (((h.step_own (hp c) hown he).symm).step_own (hp c) hown he).symm
      · exact h.step_other (hp c) hown
    · refine h.step_own (hp c) ?_ he
      cases e with
      | packet d now message =>
        simp only [keeps, Bool.or_eq_false_iff, bne_eq_false_iff_eq] at hk
        exact hk.1
      | connect d now u => cases hk
      | account d permitted => cases hk
      | disconnect d => cases hk
      | internal i => cases hk
  have hstart : Alike c (J c) (I c) (State.init (p.gateway join middleware)) (State.init _) := by
    refine ⟨fun _ _ => rfl, fun _ _ => rfl, rfl, fun k hk => ?_, fun k hk => ?_, (hp c).start⟩
    · cases hk
    · cases hk
  exact congrArg p.shown (hunwind.run hes hstart).shared

/-! ## Following one socket -/

/-- A connected socket, its middleware and data, and the shared state. -/
structure Stands (s : State (p.gateway join middleware)) (c : SocketId) (chain : List Installed)
    (k : p.Sock) (shared : p.Shared) : Prop where
  conn : s.conns c = .live chain
  sock : s.world.sockets c = some k
  shared : s.world.shared = shared

variable {chain chain' : List Installed} {k : p.Sock} {shared : p.Shared}

theorem Stands.connect (hfresh : s.conns c = .fresh) (hpreview : user.preview.isSome = false)
    (hshared : s.world.shared = shared) (now : Nat) :
    Stands (step s (.connect c now user)) c ((middleware user).map (Middleware.install now))
      (p.enter user) shared := by
  unfold step Sockets.connect
  dsimp only
  rw [hfresh, hpreview]
  exact ⟨State.setConn_self .., Function.update_self .., hshared⟩

theorem Stands.act (h : Stands s c chain k shared) (a : p.Act) :
    Stands (s.setWorld (Parties.act s.world c a)) c chain (p.perform c k shared a).1
      (p.perform c k shared a).2 := by
  unfold Parties.act
  rw [h.sock, h.shared]
  exact ⟨h.conn, Function.update_self .., rfl⟩

theorem Stands.account (h : Stands s c chain k shared) :
    Stands (step s (.account c true)) c chain (p.settle k true) shared := by
  unfold step Sockets.account
  dsimp only
  rw [h.conn]
  exact h.act (.settle true)

theorem Stands.packet (h : Stands s c chain k shared) (now : Nat) (message : p.Message)
    {r : p.Sock × p.Shared} (hpass : dispatch now (p.event message) chain = (true, chain'))
    (hr : p.receive c now k shared message = .ok r) :
    Stands (step s (.packet c now message)) c chain' r.1 r.2 := by
  have hmoved : Stands (s.setConn c (.live chain')) c chain' k shared :=
    ⟨State.setConn_self .., h.sock, h.shared⟩
  have hact := hmoved.act (.receive now message)
  rw [perform_of_ok hr] at hact
  unfold step Sockets.packet
  dsimp only
  rw [h.conn]
  dsimp only
  rw [hpass]
  exact hact

theorem Stands.resume (h : Stands s c chain k shared) (answer : p.Answer) {r : p.Sock × p.Shared}
    (hr : p.resume c k shared answer = r) :
    Stands (step s (.internal (.resume c answer))) c chain r.1 r.2 := by
  subst hr
  exact h.act (.resume answer)

theorem Stands.background (h : Stands s c chain k shared) (b : p.Background) :
    Stands (step s (.internal (.background b))) c chain k (p.background shared b) :=
  ⟨h.conn, h.sock, congrArg (p.background · b) h.shared⟩

/-- The events of other sockets leave a connection as it is. -/
theorem conns_of_not_own {e : Event (p.gateway join middleware)} (he : ¬ Own c e) :
    (step s e).conns c = s.conns c := by
  have hset (s : State (p.gateway join middleware)) {d : SocketId} (hd : d ≠ c) (conn : Conn) :
      (s.setConn d conn).conns c = s.conns c := s.setConn_of_ne conn (Ne.symm hd)
  cases e with
  | connect d now u =>
    unfold step Sockets.connect
    dsimp only
    split
    · split <;> exact hset _ he _
    · rfl
  | account d permitted =>
    unfold step Sockets.account
    dsimp only
    split
    · rfl
    · split
      · rfl
      · exact hset _ he _
    · rfl
  | packet d now message =>
    unfold step Sockets.packet
    dsimp only
    split
    · split <;> exact hset _ he _
    · rfl
  | disconnect d =>
    unfold step Sockets.disconnect
    dsimp only
    split
    · exact hset _ he _
    · rfl
  | internal i => rfl

theorem conns_of_none_own :
    ∀ {es : List (Event (p.gateway join middleware))} {s : State (p.gateway join middleware)},
      (∀ e ∈ es, ¬ Own c e) → (es.foldl step s).conns c = s.conns c
  | [], _, _ => rfl
  | e :: es, s, h => by
    rw [List.foldl_cons, conns_of_none_own fun e' he' => h e' (List.mem_cons_of_mem e he')]
    exact conns_of_not_own (h e List.mem_cons_self)

end Parties

end Livetich.Sockets
