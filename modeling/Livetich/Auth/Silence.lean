/-
What a disabled account can still do on its sockets, in the five namespaces. `setMemberStatus` and `setUserStatus`
write the row and drop the cached state, and close no socket: `evictUserGlobally` has no caller. The account is
asked for once, when a socket connects, and from then on a handler asks what the socket has joined. The handlers of
the room's host ask the session row instead, and for those nothing waits for the account check.

The sockets and the calls of `getState` are those of one account; a socket's check is the call of its number.
-/
import Livetich.Auth.Cache
import Livetich.Room.Membership
import Livetich.Sockets.Join

namespace Livetich.Auth

open TransSys

/-! ## What a call of `getState` returns -/

namespace Cache

/-- What call `i` of `getState` returns with its next answer, if it returns. -/
def State.returns (s : State) (i : Nat) : Option (Option AccountState) :=
  match s.calls.get i with
  | some (.getting _) => s.cached.map some
  | some (.finding _) => if s.row.isNone then some none else none
  | some (.setting _ a) => some (some a)
  | _ => none

/-- The step completes a disable that nothing has undone. -/
def State.completes (s : State) : Event → Bool
  | .resume i => s.calls.get i == some (.deleting (.status .disabled) true)
  | _ => false

/-- A disable counts as completed from the step that completes it. -/
theorem settled_of_step {s s' : State} {ev : Event} (h : step s ev = some s') (hsettled : s'.settled = true) :
    s.settled = true ∨ s.completes ev = true := by
  cases ev with
  | getState i =>
    unfold step at h
    dsimp only at h
    split at h
    · cases h
    · cases h
      exact .inl hsettled
  | change i change =>
    unfold step at h
    dsimp only at h
    split at h
    · cases h
    · cases h
      exact .inl hsettled
  | expire =>
    cases h
    exact .inl hsettled
  | resume i =>
    obtain ⟨c, hc, rfl⟩ := Option.map_eq_some_iff.1 h
    cases c with
    | getting after =>
      refine .inl ?_
      revert hsettled
      unfold State.resume
      cases s.cached <;> exact id
    | finding after =>
      refine .inl ?_
      revert hsettled
      unfold State.resume
      cases s.row <;> exact id
    | setting after a => exact .inl hsettled
    | updating change =>
      refine .inl ?_
      revert hsettled
      unfold State.resume State.update
      cases s.row with
      | none => exact id
      | some a =>
        simp only
        split
        · rintro ⟨⟩
        · exact id
    | deleting change stands =>
      rcases Bool.or_eq_true_iff.1 hsettled with h | h
      · exact .inl h
      · obtain ⟨rfl, hchange⟩ := Bool.and_eq_true_iff.1 h
        cases beq_iff_eq.1 hchange
        exact .inr (by simp only [State.completes, hc, beq_self_eq_true])

/-- A call that returns completes no disable. -/
theorem completes_of_returns {s : State} {i : Nat} {account : Option AccountState} (h : s.returns i = some account) :
    s.completes (.resume i) = false := by
  refine beq_eq_false_iff_ne.2 fun hc => ?_
  unfold State.returns at h
  rw [hc] at h
  cases h

/-- Under a completed disable every call returns a disabled account, as long as no row from before is stored. -/
theorem Inv.returns {s : State} (hs : Inv s) (hsettled : s.settled = true) {i : Nat}
    (hok : storesFresh s (.resume i) = true) {account : Option AccountState} (h : s.returns i = some account) :
    ∃ a, account = some a ∧ a.status = .disabled := by
  unfold State.returns at h
  cases hc : s.calls.get i with
  | none =>
    rw [hc] at h
    cases h
  | some c =>
    rw [hc] at h
    cases c with
    | getting after =>
      obtain ⟨a, ha, rfl⟩ := Option.map_eq_some_iff.1 h
      exact ⟨a, rfl, hs.silent hsettled a ha⟩
    | finding after =>
      obtain ⟨a, ha, -⟩ := hs.row hsettled
      simp only [ha, Option.isNone_some, Bool.false_eq_true, if_false] at h
      cases h
    | setting after a =>
      cases h
      simp only [storesFresh, hc, hsettled, Bool.not_true, Bool.false_or, beq_iff_eq] at hok
      exact ⟨a, rfl, hok⟩
    | updating change => cases h
    | deleting change stands => cases h

end Cache

namespace Silence

open Room.Membership (Verdict isTeaching)
open Sockets (JoinReads door)

/-! ## Messages -/

inductive Nsp
  | root
  | board
  | code
  | terminal
  | tunnel
  deriving DecidableEq

inductive RoomMessage
  | leave
  | chatSend
  | chatVoice
  | chatLock
  | viewChange
  | themeChange
  | quranNavigate
  | tajweedTemporarySet
  | tajweedTemporaryClear
  | tajweedPointingSet
  | tajweedPointingClear
  | handRaise
  | handLower
  | studentPickRandom
  | buzzerStart
  | quizAnswer
  | screenShareGrant
  | screenShareRevoke
  | micGrant
  | micRevoke
  deriving DecidableEq

inductive BoardMessage
  | leave
  | writable
  | update
  | presenter
  | awareness
  deriving DecidableEq

inductive CodeMessage
  | leave
  | update
  | awareness
  | tree
  | focus
  | cursor
  | edit
  | scroll
  | folderToggle
  | collapseAll
  | foldersState
  | pointer
  | spotlight
  | permission
  | tabClose
  | tabCloseResult
  deriving DecidableEq

inductive TerminalMessage
  | leave
  | open_
  | data
  | resize
  | permission
  | stdin
  | close
  deriving DecidableEq

inductive TunnelMessage
  | leave
  | register
  | unregister
  /-- `tunnel:response:*` and `tunnel:ws:*`, which feed a pending response. -/
  | reply
  deriving DecidableEq

inductive Message
  | root (m : RoomMessage)
  | board (m : BoardMessage)
  | code (m : CodeMessage)
  | terminal (m : TerminalMessage)
  | tunnel (m : TunnelMessage)
  deriving DecidableEq

def Message.nsp : Message → Nsp
  | .root _ => .root
  | .board _ => .board
  | .code _ => .code
  | .terminal _ => .terminal
  | .tunnel _ => .tunnel

/-- What a handler asks before it does anything. -/
inductive Asks
  /-- `inRoom`. -/
  | room
  /-- `ownedSession`. -/
  | ownership
  | nothing
  deriving DecidableEq

def RoomMessage.asks : RoomMessage → Asks
  | .leave => .nothing
  | .chatSend | .chatVoice | .handRaise | .handLower | .quizAnswer => .room
  | .chatLock | .viewChange | .themeChange | .quranNavigate | .tajweedTemporarySet | .tajweedTemporaryClear
  | .tajweedPointingSet | .tajweedPointingClear | .studentPickRandom | .buzzerStart | .screenShareGrant
  | .screenShareRevoke | .micGrant | .micRevoke => .ownership

def Message.asks : Message → Asks
  | .root m => m.asks
  | .tunnel .reply => .nothing
  | _ => .room

/-- Leaving a room takes the presence and the raised hand away; leaving a document, the terminals or the ports
changes nothing of them. -/
def Message.changes : Message → Bool
  | .board .leave | .code .leave | .terminal .leave | .tunnel .leave | .tunnel .reply => false
  | _ => true

def Message.leaves : Message → Bool
  | .root .leave | .board .leave | .code .leave | .terminal .leave | .tunnel .leave => true
  | _ => false

/-! ## Sockets -/

structure Sock where
  nsp : Nsp
  user : JwtPayload
  connected : Bool
  /-- `none` until the account check has answered. -/
  authReady : Option Bool
  teaching : Bool
  /-- The sessions joined: `rooms` of a root socket, where the room of its own id is no session's. -/
  sessionIds : List SessionId
  deriving DecidableEq

def Sock.new (nsp : Nsp) (user : JwtPayload) : Sock := ⟨nsp, user, true, none, false, []⟩

/-- The test `authenticate` makes of the account. -/
def permitted : Option AccountState → Bool
  | none => false
  | some account => account.status != .disabled && account.emailVerified

/-- The account check answers: `disconnect(true)` unless the account is permitted. -/
def Sock.settle (k : Sock) (ok : Bool) : Sock := { k with authReady := some ok, connected := k.connected && ok }

def Sock.enter (k : Sock) (sessionId : SessionId) : Sock :=
  { k with sessionIds := k.sessionIds.filter (· != sessionId) ++ [sessionId] }

def Sock.leave (k : Sock) (sessionId : SessionId) : Sock :=
  { k with sessionIds := k.sessionIds.filter (· != sessionId) }

def Sock.drop (k : Sock) : Sock := { k with connected := false }

/-- Only the root gateway asks for this flag where a session is changed. -/
def Sock.setTeaching (k : Sock) (teach : Bool) : Sock :=
  if k.nsp = .root then { k with teaching := isTeaching k.user teach } else k

/-- The filter for recorder tokens, in the root and the board namespace, drops everything but the join. -/
def Sock.heard (k : Sock) : Bool := k.connected && (k.user.recorder.isNone || (k.nsp != .root && k.nsp != .board))

/-- What the handler asks is so, `row` being what the session's row is read as. -/
def Sock.answers (k : Sock) (sessionId : SessionId) (row : Option LiveSession) : Asks → Bool
  | .room => k.sessionIds.contains sessionId
  | .ownership => mayHost k.user k.teaching && (ownedSession k.user row).isSome
  | .nothing => true

/-- What `onJoin` decides by what it reads. -/
def Sock.letIn (k : Sock) (sessionId : SessionId) (reads : JoinReads) : Bool :=
  match k.nsp with
  | .root | .board => reads.session.any fun session => session.status != .ended &&
    match Room.Membership.verdict k.user sessionId session with
    | .refuse => false
    | .enter => true
    | .ifEnrolled => reads.enrolled
  | .code | .terminal | .tunnel => (door k.user reads).isOk

/-! ## State -/

/-- A call of `onJoin`, by what it waits for. -/
inductive Join
  | account (c : Nat) (sessionId : SessionId) (teach : Bool)
  | reads (c : Nat) (sessionId : SessionId) (teach : Bool)
  deriving DecidableEq

def Join.socket : Join → Nat
  | .account c _ _ | .reads c _ _ => c

inductive Did
  | joined (sessionId : SessionId)
  | changed (sessionId : SessionId) (m : Message)
  deriving DecidableEq

/-- What a socket has done, and whether it was under a disable that had completed. -/
structure Entry where
  after : Bool
  socket : Nat
  did : Did
  deriving DecidableEq

structure State where
  account : Cache.State
  sockets : Pool Sock
  joins : Pool Join
  /-- No handler reads this. -/
  log : List Entry

/-- An account before any call, with no sockets. -/
structure Initial (s : State) : Prop where
  account : Cache.Initial s.account
  sockets : ∀ c, s.sockets.get c = none
  joins : ∀ i, s.joins.get i = none
  log : s.log = []

namespace State

def setSock (s : State) (c : Nat) (k : Sock) : State := { s with sockets := s.sockets.put c (some k) }

/-- Call `i` of `onJoin` goes on as `t`, or ends. -/
def goto (s : State) (i : Nat) (t : Option Join) : State := { s with joins := s.joins.put i t }

def record (s : State) (c : Nat) (did : Did) : State := { s with log := ⟨s.account.settled, c, did⟩ :: s.log }

/-- Nothing was done under a disable that had completed. -/
def Silent (s : State) : Prop := ∀ e ∈ s.log, e.after = false

end State

/-! ## Steps -/

inductive Event
  | connect (c : Nat) (nsp : Nsp) (user : JwtPayload)
  /-- A step of the account: of a socket's check, another `getState`, or a change of the row. -/
  | account (ev : Cache.Event)
  /-- The check of a socket is rejected. -/
  | fails (c : Nat)
  | join (i c : Nat) (sessionId : SessionId) (teach : Bool)
  /-- A call of `onJoin` goes on, with what it reads of the database. -/
  | resume (i : Nat) (reads : JoinReads)
  /-- `fits`: the payload and the state of the class pass the handler's other tests. -/
  | message (c : Nat) (m : Message) (sessionId : SessionId) (row : Option LiveSession) (fits : Bool)
  | disconnect (c : Nat)

/-- The socket whose check has returned gets its `authReady`. -/
def settleCheck (s : State) : Cache.Event → State → State
  | .resume c, t => match s.sockets.get c, s.account.returns c with
    | some k, some account => if k.authReady.isNone then t.setSock c (k.settle (permitted account)) else t
    | _, _ => t
  | _, t => t

def resume (s : State) (i : Nat) (reads : JoinReads) : Join → Option State
  | .account c sessionId teach => (s.sockets.get c).bind fun k => k.authReady.map fun ok =>
    -- `/board` only replays its state to a socket that joins again, the others do nothing
    if !ok || (k.nsp != .root && k.sessionIds.contains sessionId) then s.goto i none
    else s.goto i (some (.reads c sessionId teach))
  | .reads c sessionId teach => (s.sockets.get c).map fun k =>
    let k := k.setTeaching teach
    if k.letIn sessionId reads then ((s.setSock c (k.enter sessionId)).record c (.joined sessionId)).goto i none
    else (s.setSock c k).goto i none

/-- A message that passes its handler's tests. -/
def accept (s : State) (c : Nat) (k : Sock) (m : Message) (sessionId : SessionId) : State :=
  let s := if m.leaves then s.setSock c (k.leave sessionId) else s
  if m.changes then s.record c (.changed sessionId m) else s

def step (s : State) : Event → Option State
  | .connect c nsp user =>
    if s.sockets.get c = none ∧ user.preview = none then
      (Cache.step s.account (.getState c)).map fun account => { s with account }.setSock c (Sock.new nsp user)
    else none
  | .account ev => (Cache.step s.account ev).map fun account => settleCheck s ev { s with account }
  | .fails c => ((s.sockets.get c).filter (·.authReady.isNone)).map fun k =>
    { s with account := { s.account with calls := s.account.calls.put c none } }.setSock c (k.settle false)
  | .join i c sessionId teach =>
    if s.joins.get i = none then
      ((s.sockets.get c).filter (·.connected)).map fun _ => s.goto i (some (.account c sessionId teach))
    else none
  | .resume i reads => (s.joins.get i).bind (resume s i reads)
  | .message c m sessionId row fits =>
    ((s.sockets.get c).filter fun k => k.heard && k.nsp == m.nsp).map fun k =>
      if k.answers sessionId row m.asks && fits then accept s c k m sessionId else s
  | .disconnect c => ((s.sockets.get c).filter (·.connected)).map fun k => s.setSock c k.drop

/-! ## The condition -/

/-- No socket that was let in is connected, or has a join under way. -/
def State.nobody (s : State) : Bool :=
  s.sockets.entries.all fun p => p.2.authReady != some true ||
    (!p.2.connected && s.joins.entries.all fun q => q.2.socket != p.1)

/-- A disable completes when nobody who was let in is left, no row from before it is stored after it, and a message
that no room is asked for comes after the account check. -/
def leavesNobody (s : State) : Event → Bool
  | .account ev => Cache.storesFresh s.account ev && (!s.account.completes ev || s.nobody)
  | .message c m _ _ _ => !s.account.settled || m.asks == .room || !m.changes ||
    (s.sockets.get c).all (·.authReady.isSome)
  | _ => true

/-! ## What holds of every socket -/

/-- A socket is in no room before its check, and is not connected after a failed one. -/
structure Sock.Wf (k : Sock) : Prop where
  outside : k.authReady ≠ some true → k.sessionIds = []
  refused : k.authReady = some false → k.connected = false

/-- Under a completed disable nobody who was let in is left. -/
def State.Nobody (s : State) : Prop :=
  ∀ c k, s.sockets.get c = some k → k.authReady = some true →
    k.connected = false ∧ ∀ i t, s.joins.get i = some t → t.socket ≠ c

theorem nobody_iff {s : State} : s.nobody = true ↔ s.Nobody := by
  unfold State.nobody
  rw [List.all_eq_true]
  constructor
  · intro h c k hk hready
    have hall := h (c, k) (Pool.mem_of_get hk)
    simp only [hready, bne_self_eq_false, Bool.false_or, Bool.and_eq_true, Bool.not_eq_true', List.all_eq_true] at hall
    exact ⟨hall.1, fun i t ht => bne_iff_ne.1 (hall.2 (i, t) (Pool.mem_of_get ht))⟩
  · rintro h ⟨c, k⟩ hk
    by_cases hready : k.authReady = some true
    · obtain ⟨hconnected, hjoins⟩ := h c k (Pool.get_of_mem hk) hready
      simp only [hready, bne_self_eq_false, Bool.false_or, hconnected, Bool.not_false, Bool.true_and, List.all_eq_true]
      exact fun q hq => bne_iff_ne.2 (hjoins q.1 q.2 (Pool.get_of_mem hq))
    · rw [bne_iff_ne.2 hready, Bool.true_or]

structure Inv (s : State) : Prop where
  account : Cache.Inv s.account
  socks : ∀ c k, s.sockets.get c = some k → k.Wf
  /-- A join past the account check is of a socket that was let in. -/
  reads : ∀ i c sessionId teach, s.joins.get i = some (.reads c sessionId teach) →
    ∃ k, s.sockets.get c = some k ∧ k.authReady = some true
  nobody : s.account.settled = true → s.Nobody
  silent : s.Silent

theorem initial_inv {s : State} (h : Initial s) : Inv s := by
  refine ⟨Cache.initial_inv h.account, fun c k hk => ?_, fun i c sessionId teach ht => ?_, fun _ c k hk => ?_,
    fun e he => ?_⟩
  · rw [h.sockets] at hk
    cases hk
  · rw [h.joins] at ht
    cases ht
  · rw [h.sockets] at hk
    cases hk
  · rw [h.log] at he
    cases he

/-! ## What the steps keep -/

/-- A socket is put in a place, where it is let in if the one before it was; under a completed disable it is not let
in, or it is closed and has no join left. -/
theorem Inv.putSock {s : State} (hs : Inv s) {c : Nat} {k : Sock} (hwf : k.Wf)
    (hready : ∀ l, s.sockets.get c = some l → l.authReady = some true → k.authReady = some true)
    (hnobody : s.account.settled = true → k.authReady = some true →
      k.connected = false ∧ ∀ i t, s.joins.get i = some t → t.socket ≠ c) : Inv (s.setSock c k) := by
  refine ⟨hs.account, fun d l hl => ?_, fun i d sessionId teach ht => ?_, fun hsettled d l hl hl' => ?_, hs.silent⟩
  · rcases Pool.get_put_cases hl with ⟨-, hnew⟩ | ⟨-, hl⟩
    · cases hnew
      exact hwf
    · exact hs.socks d l hl
  · obtain ⟨l, hl, hl'⟩ := hs.reads i d sessionId teach ht
    by_cases hd : d = c
    · subst hd
      exact ⟨k, Pool.get_put_self .., hready l hl hl'⟩
    · exact ⟨l, by rw [State.setSock, Pool.get_put_of_ne hd, hl], hl'⟩
  · rcases Pool.get_put_cases hl with ⟨rfl, hnew⟩ | ⟨-, hl⟩
    · cases hnew
      exact hnobody hsettled hl'
    · exact hs.nobody hsettled d l hl hl'

/-- A socket is changed that stays let in, or not, and connected, or not. -/
theorem Inv.setSock {s : State} (hs : Inv s) {c : Nat} {k k' : Sock} (hk : s.sockets.get c = some k) (hwf : k'.Wf)
    (hready : k'.authReady = k.authReady) (hconnected : k.connected = false → k'.connected = false) :
    Inv (s.setSock c k') := by
  refine hs.putSock hwf (fun l hl hl' => ?_) fun hsettled hk' => ?_
  · rw [hk] at hl
    cases hl
    exact hready.trans hl'
  · obtain ⟨hgone, hjoins⟩ := hs.nobody hsettled c k hk (hready.symm.trans hk')
    exact ⟨hconnected hgone, hjoins⟩

/-- A call of `onJoin` begins, goes on or ends. -/
theorem Inv.goto {s : State} (hs : Inv s) (i : Nat) {t : Option Join}
    (ht : ∀ u, t = some u → ∃ k, s.sockets.get u.socket = some k ∧
      (s.account.settled = true → k.authReady ≠ some true) ∧
      ∀ c sessionId teach, u = .reads c sessionId teach → k.authReady = some true) : Inv (s.goto i t) := by
  refine ⟨hs.account, hs.socks, fun j c sessionId teach hj => ?_, fun hsettled c k hk hready => ?_, hs.silent⟩
  · rcases Pool.get_put_cases hj with ⟨-, hnew⟩ | ⟨-, hj⟩
    · obtain ⟨k, hk, -, hready⟩ := ht _ hnew
      exact ⟨k, hk, hready c sessionId teach rfl⟩
    · exact hs.reads j c sessionId teach hj
  · obtain ⟨hgone, hjoins⟩ := hs.nobody hsettled c k hk hready
    refine ⟨hgone, fun j u hj => ?_⟩
    rcases Pool.get_put_cases hj with ⟨-, hnew⟩ | ⟨-, hj⟩
    · rintro rfl
      obtain ⟨l, hl, hout, -⟩ := ht u hnew
      rw [show s.sockets.get u.socket = some k from hk] at hl
      cases hl
      exact hout hsettled hready
    · exact hjoins j u hj

theorem Inv.ends {s : State} (hs : Inv s) (i : Nat) : Inv (s.goto i none) :=
  hs.goto i (by rintro u ⟨⟩)

/-- Something is done while no disable has completed. -/
theorem Inv.record {s : State} (hs : Inv s) (hsettled : s.account.settled = false) (c : Nat) (did : Did) :
    Inv (s.record c did) := by
  refine ⟨hs.account, hs.socks, hs.reads, hs.nobody, fun e he => ?_⟩
  rcases List.mem_cons.1 he with rfl | he
  · exact hsettled
  · exact hs.silent e he

/-- The account goes on: a disable that completes leaves nobody. -/
theorem Inv.accountStep {s : State} (hs : Inv s) {account : Cache.State} {ev : Cache.Event}
    (hok : Cache.storesFresh s.account ev = true) (hnobody : s.account.completes ev = true → s.Nobody)
    (h : Cache.step s.account ev = some account) : Inv { s with account } := by
  refine ⟨Cache.step_inv hs.account hok h, hs.socks, hs.reads, fun hsettled => ?_, hs.silent⟩
  rcases Cache.settled_of_step h hsettled with hwas | hcompletes
  · exact hs.nobody hwas
  · exact hnobody hcompletes

/-- A socket connects, or its check answers: it is let in only while no disable has completed. -/
theorem Inv.newSock {s : State} (hs : Inv s) {c : Nat} {k : Sock} (hwf : k.Wf)
    (hold : ∀ l, s.sockets.get c = some l → l.authReady = none)
    (hready : s.account.settled = true → k.authReady ≠ some true) : Inv (s.setSock c k) := by
  refine hs.putSock hwf (fun l hl hl' => ?_) fun hsettled hk => absurd hk (hready hsettled)
  rw [hold l hl] at hl'
  cases hl'

theorem settle_wf {k : Sock} (hk : k.Wf) (hready : k.authReady = none) (ok : Bool) : (k.settle ok).Wf := by
  refine ⟨fun _ => hk.outside (by rw [hready]; rintro ⟨⟩), fun h => ?_⟩
  cases Option.some.inj h
  exact Bool.and_false _

/-- The account's own steps, with the checks they answer. -/
theorem account_inv {s s' : State} {ev : Cache.Event} (hs : Inv s) (hok : leavesNobody s (.account ev) = true)
    (h : step s (.account ev) = some s') : Inv s' := by
  obtain ⟨account, haccount, rfl⟩ := Option.map_eq_some_iff.1 h
  obtain ⟨hfresh, hleft⟩ := Bool.and_eq_true_iff.1 hok
  have hnobody : s.account.completes ev = true → s.Nobody := fun hc => by
    rw [hc, Bool.not_true, Bool.false_or] at hleft
    exact nobody_iff.1 hleft
  have hstep := hs.accountStep hfresh hnobody haccount
  cases ev with
  | resume c =>
    cases hk : s.sockets.get c with
    | none =>
      simp only [settleCheck, hk]
      exact hstep
    | some k =>
      cases hanswer : s.account.returns c with
      | none =>
        simp only [settleCheck, hk, hanswer]
        exact hstep
      | some answer =>
        simp only [settleCheck, hk, hanswer]
        split
        · rename_i hready
          have hready : k.authReady = none := Option.isNone_iff_eq_none.1 hready
          refine hstep.newSock (settle_wf (hs.socks c k hk) hready _) (fun l hl => ?_) fun hsettled hin => ?_
          · rw [show s.sockets.get c = some l from hl] at hk
            cases hk
            exact hready
          · -- A check that answers under a completed disable finds the account disabled.
            rcases Cache.settled_of_step haccount hsettled with hwas | hcompletes
            · obtain ⟨a, rfl, hdisabled⟩ := hs.account.returns hwas hfresh hanswer
              have hpermitted : (a.status != .disabled && a.emailVerified) = true := Option.some.inj hin
              rw [hdisabled] at hpermitted
              cases hpermitted
            · rw [Cache.completes_of_returns hanswer] at hcompletes
              cases hcompletes
        · exact hstep
  | getState i => exact hstep
  | change i change => exact hstep
  | expire => exact hstep

theorem resume_inv {s s' : State} {i : Nat} {reads : JoinReads} {t : Join} (hs : Inv s) (ht : s.joins.get i = some t)
    (h : resume s i reads t = some s') : Inv s' := by
  -- The socket of a join that goes on under a completed disable was not let in.
  have hout : ∀ k, s.sockets.get t.socket = some k → s.account.settled = true → k.authReady ≠ some true :=
    fun k hk hsettled hready => (hs.nobody hsettled t.socket k hk hready).2 i t ht rfl
  cases t with
  | account c sessionId teach =>
    obtain ⟨k, hk, h⟩ := Option.bind_eq_some_iff.1 h
    obtain ⟨ok, hready, rfl⟩ := Option.map_eq_some_iff.1 h
    split
    · exact hs.ends i
    · rename_i hgo
      have hok : ok = true := by
        cases ok with
        | true => rfl
        | false => exact absurd rfl hgo
      refine hs.goto i ?_
      rintro u ⟨⟩
      exact ⟨k, hk, hout k hk, fun _ _ _ _ => by rw [hready, hok]⟩
  | reads c sessionId teach =>
    obtain ⟨k, hk, rfl⟩ := Option.map_eq_some_iff.1 h
    obtain ⟨l, hl, hready⟩ := hs.reads i c sessionId teach ht
    rw [hk] at hl
    cases hl
    have hteaching : (k.setTeaching teach).authReady = k.authReady ∧
        (k.setTeaching teach).connected = k.connected := by
      unfold Sock.setTeaching
      split <;> exact ⟨rfl, rfl⟩
    have hsettled : s.account.settled = false := by
      cases hsettled : s.account.settled with
      | false => rfl
      | true => exact absurd hready (hout k hk hsettled)
    have hwf : ∀ k' : Sock, k'.authReady = k.authReady → k'.Wf := fun k' hk' =>
      ⟨fun h => absurd (hk'.trans hready) h, fun h => by rw [hk', hready] at h; cases h⟩
    simp only
    split
    · have hin : Inv (s.setSock c ((k.setTeaching teach).enter sessionId)) :=
        hs.setSock hk (hwf _ hteaching.1) hteaching.1 fun hgone => hteaching.2.trans hgone
      exact (hin.record hsettled c _).ends i
    · exact (hs.setSock hk (hwf _ hteaching.1) hteaching.1 fun hgone => hteaching.2.trans hgone).ends i

/-- A message under a completed disable passes no test. -/
theorem refused_of_settled {s : State} (hs : Inv s) (hsettled : s.account.settled = true) {c : Nat} {k : Sock}
    (hk : s.sockets.get c = some k) (hconnected : k.connected = true) {m : Message} {sessionId : SessionId}
    {row : Option LiveSession} {fits : Bool} (hok : leavesNobody s (.message c m sessionId row fits) = true)
    (hchanges : m.changes = true) : k.answers sessionId row m.asks = false := by
  have hin : k.authReady ≠ some true := fun hready => by
    rw [(hs.nobody hsettled c k hk hready).1] at hconnected
    cases hconnected
  have hnone : k.authReady = none := by
    cases hready : k.authReady with
    | none => rfl
    | some ok =>
      cases ok with
      | true => exact absurd hready hin
      | false =>
        rw [(hs.socks c k hk).refused hready] at hconnected
        cases hconnected
  have hasks : m.asks = .room := by
    simpa [leavesNobody, hsettled, hchanges, hk, hnone] using hok
  rw [hasks]
  show k.sessionIds.contains sessionId = false
  rw [(hs.socks c k hk).outside hin]
  rfl

theorem message_inv {s s' : State} {c : Nat} {m : Message} {sessionId : SessionId} {row : Option LiveSession}
    {fits : Bool} (hs : Inv s) (hok : leavesNobody s (.message c m sessionId row fits) = true)
    (h : step s (.message c m sessionId row fits) = some s') : Inv s' := by
  obtain ⟨k, hk, rfl⟩ := Option.map_eq_some_iff.1 h
  obtain ⟨hk, hheard⟩ := Option.filter_eq_some_iff.1 hk
  have hconnected : k.connected = true := (Bool.and_eq_true_iff.1 (Bool.and_eq_true_iff.1 hheard).1).1
  split
  · rename_i hpass
    unfold accept
    have hleave : Inv (if m.leaves = true then s.setSock c (k.leave sessionId) else s) := by
      split
      · refine hs.setSock hk ⟨fun hready => ?_, (hs.socks c k hk).refused⟩ rfl id
        show k.sessionIds.filter (· != sessionId) = []
        rw [(hs.socks c k hk).outside hready]
        rfl
      · exact hs
    have haccount : (if m.leaves = true then s.setSock c (k.leave sessionId) else s).account = s.account := by
      split <;> rfl
    simp only
    split
    · rename_i hchanges
      refine hleave.record ?_ c _
      rw [haccount]
      cases hsettled : s.account.settled with
      | false => rfl
      | true =>
        rw [refused_of_settled hs hsettled hk hconnected hok hchanges] at hpass
        cases hpass
    · exact hleave
  · exact hs

theorem step_inv {s s' : State} {ev : Event} (hs : Inv s) (hok : leavesNobody s ev = true)
    (h : step s ev = some s') : Inv s' := by
  cases ev with
  | connect c nsp user =>
    unfold step at h
    dsimp only at h
    split at h
    · rename_i hfree
      obtain ⟨account, haccount, rfl⟩ := Option.map_eq_some_iff.1 h
      refine (hs.accountStep rfl (by rintro ⟨⟩) haccount).newSock ⟨fun _ => rfl, by rintro ⟨⟩⟩ (fun l hl => ?_)
        (by rintro - ⟨⟩)
      rw [show s.sockets.get c = some l from hl] at hfree
      cases hfree.1
    · cases h
  | account ev => exact account_inv hs hok h
  | fails c =>
    obtain ⟨k, hk, rfl⟩ := Option.map_eq_some_iff.1 h
    obtain ⟨hk, hready⟩ := Option.filter_eq_some_iff.1 hk
    have hready : k.authReady = none := Option.isNone_iff_eq_none.1 hready
    have hcalls : Cache.Inv { s.account with calls := s.account.calls.put c none } := by
      refine hs.account.calls_only rfl rfl rfl rfl fun j d hd => ?_
      rcases Pool.get_put_cases hd with ⟨-, hnone⟩ | ⟨-, hd⟩
      · cases hnone
      · exact .inl hd
    have hreturned : Inv { s with account := { s.account with calls := s.account.calls.put c none } } :=
      ⟨hcalls, hs.socks, hs.reads, hs.nobody, hs.silent⟩
    refine hreturned.newSock (settle_wf (hs.socks c k hk) hready false) (fun l hl => ?_) (by rintro - ⟨⟩)
    rw [show s.sockets.get c = some l from hl] at hk
    cases hk
    exact hready
  | join i c sessionId teach =>
    unfold step at h
    dsimp only at h
    split at h
    · obtain ⟨k, hk, rfl⟩ := Option.map_eq_some_iff.1 h
      obtain ⟨hk, hconnected⟩ := Option.filter_eq_some_iff.1 hk
      refine hs.goto i ?_
      rintro u ⟨⟩
      refine ⟨k, hk, fun hsettled hready => ?_, by rintro _ _ _ ⟨⟩⟩
      rw [(hs.nobody hsettled c k hk hready).1] at hconnected
      cases hconnected
    · cases h
  | resume i reads =>
    obtain ⟨t, ht, h⟩ := Option.bind_eq_some_iff.1 h
    exact resume_inv hs ht h
  | message c m sessionId row fits => exact message_inv hs hok h
  | disconnect c =>
    obtain ⟨k, hk, rfl⟩ := Option.map_eq_some_iff.1 h
    obtain ⟨hk, -⟩ := Option.filter_eq_some_iff.1 hk
    exact hs.setSock hk ⟨(hs.socks c k hk).outside, fun _ => rfl⟩ rfl fun _ => rfl

/-! ## A disabled account falls silent -/

/-- From the completion of a disable to the enabling of the account no message of its sockets changes anything and
no join succeeds, in every run where a disable that completes finds nobody left who was let in. -/
theorem falls_silent {s₀ s : State} {es : List Event} (hinit : Initial s₀)
    (hok : Meets step (fun s ev => leavesNobody s ev = true) s₀ es) (hrun : run step s₀ es = some s) : s.Silent :=
  (run_inv (fun _ _ _ => step_inv) (initial_inv hinit) hok hrun).silent

namespace Example

def start : State := ⟨Cache.Example.account, Pool.empty, Pool.empty, []⟩

def bilal : JwtPayload := ⟨"bilal", .student, "Bilal", some "acme", none, none⟩

def zayd : JwtPayload := ⟨"zayd", .instructor, "Zayd", some "acme", none, none⟩

def monday : LiveSession := ⟨"monday", .live, "tajweed-1", some "zayd", some "acme", none⟩

/-- The calls of a `getState` that finds no key, and of a change of the account. -/
def checked (c : Nat) : List Event := [.account (.resume c), .account (.resume c), .account (.resume c)]

def disabled (i : Nat) : List Event :=
  [.account (.change i (.status .disabled)), .account (.resume i), .account (.resume i)]

def joined (i c : Nat) : List Event :=
  [.join i c "monday" false, .resume i ⟨none, false, false⟩, .resume i ⟨some monday, false, true⟩]

/-- A student chats and goes, and comes back under the disable. -/
def comesBack : List Event :=
  .connect 0 .root bilal :: checked 0 ++ joined 0 0 ++
    [.message 0 (.root .chatSend) "monday" none true, .disconnect 0] ++ disabled 1 ++
    .connect 2 .root bilal :: checked 2

/-- A student stays in the room. -/
def stays : List Event :=
  .connect 0 .root bilal :: checked 0 ++ joined 0 0 ++ disabled 1 ++
    [.message 0 (.root .chatSend) "monday" none true]

/-- A teacher connects under the disable, and does not wait for the check. -/
def hurries : List Event :=
  disabled 1 ++ [.connect 0 .root zayd, .message 0 (.root .chatLock) "monday" (some monday) true]

theorem start_initial : Initial start :=
  ⟨Cache.Example.account_initial, fun _ => rfl, fun _ => rfl, rfl⟩

end Example

open Example in
theorem left_before : ∃ s, run step start comesBack = some s ∧ s.account.settled = true ∧
    s.log = [⟨false, 0, .changed "monday" (.root .chatSend)⟩, ⟨false, 0, .joined "monday"⟩] ∧ s.Silent := by
  have hrun : (run step start comesBack).map (fun s => (s.account.settled, s.log)) =
      some (true, [⟨false, 0, .changed "monday" (.root .chatSend)⟩, ⟨false, 0, .joined "monday"⟩]) := by
    decide
  obtain ⟨s, hs, hseen⟩ := Option.map_eq_some_iff.1 hrun
  simp only [Prod.mk.injEq] at hseen
  exact ⟨s, hs, hseen.1, hseen.2, falls_silent start_initial (by decide) hs⟩

open Example in
/-- The disable has completed: a student who stayed in the room chats, and a teacher who has not been checked locks
the chat. -/
theorem disabled_speaks :
    (∃ s, run step start stays = some s ∧ s.account.settled = true ∧
      ⟨true, 0, .changed "monday" (.root .chatSend)⟩ ∈ s.log ∧ ¬s.Silent) ∧
    ∃ s, run step start hurries = some s ∧ s.account.settled = true ∧
      ⟨true, 0, .changed "monday" (.root .chatLock)⟩ ∈ s.log ∧ ¬s.Silent := by
  have hloud : ∀ {s : State} {e : Entry}, e ∈ s.log → e.after = true → ¬s.Silent := fun he hafter h => by
    rw [h _ he] at hafter
    cases hafter
  have hstays : (run step start stays).map (fun s => (s.account.settled, s.log.head?)) =
      some (true, some ⟨true, 0, .changed "monday" (.root .chatSend)⟩) := by decide
  have hhurries : (run step start hurries).map (fun s => (s.account.settled, s.log.head?)) =
      some (true, some ⟨true, 0, .changed "monday" (.root .chatLock)⟩) := by decide
  obtain ⟨s, hs, hseen⟩ := Option.map_eq_some_iff.1 hstays
  obtain ⟨t, ht, hseen'⟩ := Option.map_eq_some_iff.1 hhurries
  simp only [Prod.mk.injEq] at hseen hseen'
  have hmem := List.mem_of_mem_head? hseen.2
  have hmem' := List.mem_of_mem_head? hseen'.2
  exact ⟨⟨s, hs, hseen.1, hmem, hloud hmem rfl⟩, t, ht, hseen'.1, hmem', hloud hmem' rfl⟩

end Silence

end Livetich.Auth
