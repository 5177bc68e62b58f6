/-
What the sockets in a session's room are shown of what a gateway keeps in memory. `onJoin` ends with a snapshot for the
socket it lets in; every later change is emitted to the room in the same turn, sometimes to all but the socket it comes
from. A socket that takes in what it is sent keeps a screen of the session, and the screens stay true as long as each
emission makes of a true screen a true one.
-/
import Livetich.Lib.TransSys
import Livetich.Sockets.Join

namespace Livetich.Sockets.Mirror

/-- What is emitted to the room of a session. -/
structure Emission (Out : Type) where
  sessionId : SessionId
  /-- `client.to(…)`: the sender is passed over. -/
  others : Bool
  out : Out

/-- A gateway with sockets of the common kind, what its handlers emit, and what a socket makes of it. -/
structure Feed (Shared Message Out Screen : Type) where
  start : Shared
  receive : SocketId → Nat → Sock → Shared → Message → Except Failure (Sock × Shared)
  cleanupSocket : Shared → SocketId → Shared
  /-- What a handler that was not refused emits, given what is kept after it. -/
  emits : Message → Shared → Option (Emission Out)
  /-- What the emissions of `handleDisconnect` make of a screen of the session. -/
  closing : Shared → SocketId → SessionId → Screen → Screen
  /-- What `onJoin` ends with. -/
  snapshot : SessionId → Shared → Screen
  hear : Screen → Out → Screen
  blank : Screen

variable {Shared Message Out Screen : Type}

structure World (Shared Screen : Type) where
  socks : SocketId → Option Sock
  /-- The ids of all sockets so far. -/
  ids : List SocketId
  shared : Shared
  screens : SocketId → SessionId → Screen

inductive Event (Message : Type)
  | connect (c : SocketId) (user : JwtPayload)
  | settle (c : SocketId) (permitted : Bool)
  | receive (c : SocketId) (now : Nat) (message : Message)
  /-- What a call of `onJoin` waits for is answered. -/
  | answer (c : SocketId) (i : Nat) (reads : JoinReads)
  | disconnect (c : SocketId)

variable (feed : Feed Shared Message Out Screen)

def World.init : World Shared Screen := ⟨fun _ => none, [], feed.start, fun _ _ => feed.blank⟩

namespace World

def setSock (w : World Shared Screen) (c : SocketId) (k : Option Sock) : World Shared Screen :=
  { w with socks := Function.update w.socks c k }

def inRoom (w : World Shared Screen) (c : SocketId) (sessionId : SessionId) : Bool :=
  (w.socks c).any (·.inRoom sessionId)

/-- An emission of socket `d` reaches the room. -/
def emit (w : World Shared Screen) (d : SocketId) (e : Emission Out) : World Shared Screen :=
  { w with screens := fun c sessionId =>
      if sessionId = e.sessionId ∧ w.inRoom c sessionId = true ∧ ¬(e.others = true ∧ c = d) then
        feed.hear (w.screens c sessionId) e.out
      else w.screens c sessionId }

/-- The handler of a message has returned. -/
def received (w : World Shared Screen) (d : SocketId) (m : Message) (k : Sock) (shared : Shared) :
    World Shared Screen :=
  let w := { w.setSock d (some k) with shared }
  match feed.emits m shared with
  | none => w
  | some e => w.emit feed d e

/-- Call `i` of `onJoin` goes on, and ends with the snapshot where it lets the caller in. -/
def answered (w : World Shared Screen) (c : SocketId) (k : Sock) (i : Nat) (reads : JoinReads) :
    World Shared Screen :=
  match k.onJoin i reads with
  | (k, none) => w.setSock c (some k)
  | (k, some (sessionId, _)) => { w.setSock c (some (k.enter sessionId)) with
      screens := Function.update w.screens c
        (Function.update (w.screens c) sessionId (feed.snapshot sessionId w.shared)) }

/-- `handleDisconnect`: the socket has left its rooms. -/
def disconnected (w : World Shared Screen) (d : SocketId) : World Shared Screen where
  socks := Function.update w.socks d none
  ids := w.ids
  shared := feed.cleanupSocket w.shared d
  screens := fun c sessionId => if c ≠ d ∧ w.inRoom c sessionId = true then
      feed.closing w.shared d sessionId (w.screens c sessionId)
    else w.screens c sessionId

end World

def step (w : World Shared Screen) : Event Message → Option (World Shared Screen)
  | .connect c user => if w.ids.contains c then none else some { w.setSock c (some (.new user)) with ids := c :: w.ids }
  | .settle c permitted => (w.socks c).map fun k => w.setSock c (some (k.settle permitted))
  | .receive c now message => (w.socks c).map fun k => match feed.receive c now k w.shared message with
    | .ok (k, shared) => w.received feed c message k shared
    | .error _ => w
  | .answer c i reads => (w.socks c).map fun k => w.answered feed c k i reads
  | .disconnect c => (w.socks c).map fun _ => w.disconnected feed c

/-! ## Screens stay true -/

theorem inRoom_of_leave {k : Sock} {sessionId left : SessionId} (h : (k.leave left).inRoom sessionId = true) :
    k.inRoom sessionId = true := by
  unfold Sock.leave Sock.inRoom at h
  unfold Sock.inRoom
  rw [List.contains_iff_mem] at h ⊢
  exact (List.mem_filter.1 h).1

variable {feed}

/-- Every emission makes of a screen that shows socket `c` a session one that does so after the change. What is kept
has an invariant of its own, `I`. -/
structure Faithful (feed : Feed Shared Message Out Screen) (I : Shared → Prop)
    (Shows : SocketId → SessionId → Shared → Screen → Prop) : Prop where
  start : I feed.start
  kept : ∀ {d now k k' shared shared' m}, feed.receive d now k shared m = .ok (k', shared') → I shared → I shared'
  cleaned : ∀ {d shared}, I shared → I (feed.cleanupSocket shared d)
  snapshot : ∀ {c sessionId shared}, I shared → Shows c sessionId shared (feed.snapshot sessionId shared)
  /-- Rooms are entered by `onJoin` alone. -/
  rooms : ∀ {d now k k' shared shared' m sessionId}, feed.receive d now k shared m = .ok (k', shared') →
    k'.inRoom sessionId = true → k.inRoom sessionId = true
  silent : ∀ {d now k k' shared shared' m c sessionId screen}, feed.receive d now k shared m = .ok (k', shared') →
    (∀ e ∈ feed.emits m shared', e.sessionId = sessionId → e.others = true ∧ c = d) →
    Shows c sessionId shared screen → Shows c sessionId shared' screen
  emitted : ∀ {d now k k' shared shared' m c sessionId screen} {e : Emission Out},
    feed.receive d now k shared m = .ok (k', shared') → feed.emits m shared' = some e → e.sessionId = sessionId →
    ¬(e.others = true ∧ c = d) → Shows c sessionId shared screen →
    Shows c sessionId shared' (feed.hear screen e.out)
  closing : ∀ {d c shared sessionId screen}, c ≠ d → Shows c sessionId shared screen →
    Shows c sessionId (feed.cleanupSocket shared d) (feed.closing shared d sessionId screen)

variable {I : Shared → Prop} {Shows : SocketId → SessionId → Shared → Screen → Prop} {w w' : World Shared Screen}

/-- Every socket in a room has a true screen of its session. -/
structure Inv (I : Shared → Prop) (Shows : SocketId → SessionId → Shared → Screen → Prop)
    (w : World Shared Screen) : Prop where
  kept : I w.shared
  shows : ∀ c sessionId, w.inRoom c sessionId = true → Shows c sessionId w.shared (w.screens c sessionId)

theorem inRoom_setSock_of_ne {w : World Shared Screen} {c d : SocketId} {k : Option Sock} {sessionId : SessionId}
    (h : c ≠ d) : (w.setSock d k).inRoom c sessionId = w.inRoom c sessionId :=
  congrArg (Option.any fun k : Sock => k.inRoom sessionId) (Function.update_of_ne h ..)

theorem inRoom_setSock_self {w : World Shared Screen} {d : SocketId} {k : Sock} {sessionId : SessionId} :
    (w.setSock d (some k)).inRoom d sessionId = k.inRoom sessionId := by
  show (Function.update w.socks d (some k) d).any (·.inRoom sessionId) = _
  rw [Function.update_self]
  rfl

/-- A socket that changes hands between no rooms, or leaves some. -/
theorem Inv.setSock (h : Inv I Shows w) {d : SocketId} {k k' : Sock} (hk : w.socks d = some k)
    (hrooms : ∀ sessionId, k'.inRoom sessionId = true → k.inRoom sessionId = true) :
    Inv I Shows (w.setSock d (some k')) := by
  refine ⟨h.kept, fun c sessionId hc => h.shows c sessionId ?_⟩
  by_cases hcd : c = d
  · subst hcd
    rw [inRoom_setSock_self] at hc
    unfold World.inRoom
    rw [hk]
    exact hrooms sessionId hc
  · rw [inRoom_setSock_of_ne hcd] at hc
    exact hc

theorem Inv.received (hfeed : Faithful feed I Shows) (h : Inv I Shows w) {d : SocketId} {now : Nat} {k k' : Sock}
    {shared' : Shared} {m : Message} (hk : w.socks d = some k)
    (hr : feed.receive d now k w.shared m = .ok (k', shared')) : Inv I Shows (w.received feed d m k' shared') := by
  have hold : Inv I Shows (w.setSock d (some k')) := h.setSock hk fun sessionId => hfeed.rooms hr
  have hkept : (w.received feed d m k' shared').shared = shared' := by
    unfold World.received
    dsimp only
    split <;> rfl
  refine ⟨by rw [hkept]; exact hfeed.kept hr h.kept, fun c sessionId hc => ?_⟩
  unfold World.received at hc ⊢
  dsimp only at hc ⊢
  cases he : feed.emits m shared' with
  | none =>
    rw [he] at hc
    have hscreen := hold.shows c sessionId hc
    exact hfeed.silent hr (by rw [he]; intro e hmem; cases hmem) hscreen
  | some e =>
    rw [he] at hc
    have hscreen := hold.shows c sessionId hc
    show Shows c sessionId shared' (ite _ _ _)
    split
    · rename_i hto
      exact hfeed.emitted hr he hto.1.symm hto.2.2 hscreen
    · rename_i hnot
      refine hfeed.silent hr (fun e' hmem hsession => ?_) hscreen
      -- it is in the room, so it was passed over
      rw [he] at hmem
      cases hmem
      by_contra hout
      exact hnot ⟨hsession.symm, hc, hout⟩

theorem Inv.answered (hfeed : Faithful feed I Shows) (h : Inv I Shows w) {c : SocketId} {k : Sock}
    (hk : w.socks c = some k) (i : Nat) (reads : JoinReads) : Inv I Shows (w.answered feed c k i reads) := by
  have hsame : ∀ sessionId, (k.onJoin i reads).1.inRoom sessionId = k.inRoom sessionId := by
    intro sessionId
    unfold Sock.onJoin
    split
    · rfl
    · split
      · rfl
      · split <;> rfl
    · dsimp only
      split <;> rfl
  unfold World.answered
  split
  · rename_i k' heq
    refine h.setSock hk fun sessionId hin => ?_
    rw [← hsame, heq]
    exact hin
  · rename_i k' joined session heq
    refine ⟨h.kept, fun d sessionId hd => ?_⟩
    by_cases hdc : d = c
    · subst hdc
      show Shows d sessionId w.shared (Function.update w.screens d _ d sessionId)
      rw [Function.update_self]
      by_cases hjoined : sessionId = joined
      · subst hjoined
        rw [Function.update_self]
        exact hfeed.snapshot h.kept
      · rw [Function.update_of_ne hjoined]
        refine h.shows d sessionId ?_
        -- it was in this room before
        have hin : (k'.enter joined).inRoom sessionId = true := (inRoom_setSock_self (w := w)).symm.trans hd
        have hbefore : k'.inRoom sessionId = true := by
          unfold Sock.enter Sock.inRoom at hin
          unfold Sock.inRoom
          split at hin
          · exact hin
          · simpa [hjoined] using hin
        unfold World.inRoom
        rw [hk, Option.any_some, ← hsame, heq]
        exact hbefore
    · show Shows d sessionId w.shared (Function.update w.screens c _ d sessionId)
      rw [Function.update_of_ne hdc]
      refine h.shows d sessionId ?_
      rw [← inRoom_setSock_of_ne hdc (k := some (k'.enter joined))]
      exact hd

theorem Inv.disconnected (hfeed : Faithful feed I Shows) (h : Inv I Shows w) (d : SocketId) :
    Inv I Shows (w.disconnected feed d) := by
  refine ⟨hfeed.cleaned h.kept, fun c sessionId hc => ?_⟩
  have hgone : (w.setSock d none).inRoom c sessionId = true := hc
  have hne : c ≠ d := by
    rintro rfl
    unfold World.inRoom World.setSock at hgone
    simp at hgone
  have hin : w.inRoom c sessionId = true := (inRoom_setSock_of_ne hne).symm.trans hgone
  show Shows c sessionId (feed.cleanupSocket w.shared d) (ite _ _ _)
  rw [if_pos ⟨hne, hin⟩]
  exact hfeed.closing hne (h.shows c sessionId hin)

theorem Inv.step (hfeed : Faithful feed I Shows) {e : Event Message} (h : Inv I Shows w)
    (hs : Mirror.step feed w e = some w') : Inv I Shows w' := by
  cases e with
  | connect c user =>
    have hs' : (if w.ids.contains c then none else some _) = some w' := hs
    split at hs'
    · cases hs'
    · cases hs'
      refine ⟨h.kept, fun d sessionId hd => ?_⟩
      refine h.shows d sessionId ?_
      by_cases hdc : d = c
      · subst hdc
        rw [show ({ w.setSock d (some (.new user)) with ids := d :: w.ids } :
          World Shared Screen).inRoom d sessionId = _ from inRoom_setSock_self] at hd
        cases hd
      · exact (inRoom_setSock_of_ne hdc).symm.trans hd
  | settle c permitted =>
    obtain ⟨k, hk, rfl⟩ := Option.map_eq_some_iff.1 hs
    exact h.setSock hk fun _ hin => hin
  | receive c now message =>
    obtain ⟨k, hk, hw⟩ := Option.map_eq_some_iff.1 hs
    split at hw
    · rename_i k' shared' hr
      subst hw
      exact h.received hfeed hk hr
    · subst hw
      exact h
  | answer c i reads =>
    obtain ⟨k, hk, rfl⟩ := Option.map_eq_some_iff.1 hs
    exact h.answered hfeed hk i reads
  | disconnect c =>
    obtain ⟨k, -, rfl⟩ := Option.map_eq_some_iff.1 hs
    exact h.disconnected hfeed c

/-- In every run, each socket in the room of a session has a true screen of it. -/
theorem shows_of_run (hfeed : Faithful feed I Shows) {es : List (Event Message)}
    (h : TransSys.run (Mirror.step feed) (World.init feed) es = some w) {c : SocketId} {sessionId : SessionId}
    (hc : w.inRoom c sessionId = true) : Shows c sessionId w.shared (w.screens c sessionId) := by
  refine (TransSys.run_keeps (I := Inv I Shows) (fun _ _ _ hi hs => hi.step hfeed hs) ?_ h).shows c sessionId hc
  exact ⟨hfeed.start, fun d s hd => by cases hd⟩

/-- A socket connects and joins a session, with an enrolment where it needs one. -/
def joined (join : SessionId → Message) (session : LiveSession) (c : SocketId) (user : JwtPayload) :
    List (Event Message) :=
  [.connect c user, .settle c true, .receive c 0 (join session.id), .answer c 0 ⟨none, false, false⟩,
    .answer c 0 ⟨some session, true, true⟩]

end Livetich.Sockets.Mirror
