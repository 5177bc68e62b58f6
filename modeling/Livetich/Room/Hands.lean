/-
Raised hands and the microphone in one room of an organization that ties the one to the other: `onHandRaise`,
`onHandLower`, `onPickRandom`, `onMicGrant`, `onMicRevoke`, and what `onLeave` and `handleDisconnect` do to a hand, as
tasks that run from one awaited call to the next. `micNeedsHand` answers true throughout.

Whether a join is allowed, and whether a caller owns the session, is part of the event. What the handlers emit, and the
presence entry, are left out; the calls that read and write them are time that passes.
-/
import Livetich.Room.Membership

namespace Livetich.Room.Hands

open TransSys Room.Membership

/-! ## Data -/

/-- A socket, as far as this room goes. -/
structure Sock where
  user : JwtPayload
  connected : Bool
  teaching : Bool
  shadow : Bool
  /-- The socket is in the room, and `sessionIds` has the session. -/
  inRoom : Bool
  deriving DecidableEq

def Sock.new (user : JwtPayload) : Sock := ⟨user, true, false, false, false⟩

/-- A handler in flight, by the call it waits for. -/
inductive Task
  | raise (user : RoomUser)
  | lower (userId : UserId)
  /-- `onHandLower` waits for `micNeedsHand`. -/
  | lowerNeeds (userId : UserId)
  | lowerList (userId : UserId)
  | lowerRevoke (userId : UserId)
  | grantOwner (userId : UserId)
  | grantNeeds (userId : UserId)
  | grantHands (userId : UserId)
  | grantAdd (userId : UserId)
  | revokeOwner (userId : UserId)
  | revokeRemove (userId : UserId)
  | pickOwner
  /-- `randomHand` waits for the keys, and then for the hand it has chosen. -/
  | pickKeys
  | pickGet (userId : UserId)
  | pickClear (userId : UserId)
  /-- `broadcastHands` before the microphone is granted. -/
  | pickShow (userId : UserId)
  | pickGrant (userId : UserId)
  /-- `handleDisconnect` deals with the other sessions of its socket first. -/
  | drop (c : Nat) (userId : UserId)
  /-- `userStillInRoom`, in `onLeave` and `handleDisconnect`. -/
  | goFetch (c : Nat) (userId : UserId)
  | goPresence (userId : UserId)
  | goHand (userId : UserId)
  deriving DecidableEq

structure State where
  sockets : Pool Sock
  /-- The hash `room:<id>:hands`. -/
  hands : List RoomUser
  /-- The set `room:<id>:speakers`. -/
  speakers : List UserId
  tasks : Pool Task
  /-- The speaker the last pick put there, until the microphone is taken away; no handler reads this. -/
  picked : Option UserId

def init : State := ⟨Pool.empty, [], [], Pool.empty, none⟩

namespace State

/-- Task `i` goes on as `t`, or ends. -/
def goto (s : State) (i : Nat) (t : Option Task) : State := { s with tasks := s.tasks.put i t }

def setSock (s : State) (c : Nat) (k : Sock) : State := { s with sockets := s.sockets.put c (some k) }

def raised (s : State) (userId : UserId) : Bool := s.hands.any (·.userId == userId)

def raiseHand (s : State) (user : RoomUser) : State :=
  { s with hands := s.hands.filter (·.userId != user.userId) ++ [user] }

def lowerHand (s : State) (userId : UserId) : State := { s with hands := s.hands.filter (·.userId != userId) }

def grantMic (s : State) (userId : UserId) : State :=
  { s with speakers := if userId ∈ s.speakers then s.speakers else s.speakers ++ [userId] }

def revokeMic (s : State) (userId : UserId) : State :=
  { s with speakers := s.speakers.filter (· != userId), picked := s.picked.filter (· != userId) }

/-- `userStillInRoom`. -/
def userStillInRoom (s : State) (userId : UserId) (except : Nat) : Bool :=
  s.sockets.entries.any fun p => p.1 != except && p.2.connected && p.2.inRoom && p.2.user.sub == userId

end State

/-! ## Steps -/

/-- The next step of task `t`, numbered `i`; `none` where the event that moves it is another one. -/
def resume (s : State) (i : Nat) : Task → Option State
  | .raise user => some ((s.raiseHand user).goto i none)
  | .lower userId => some ((s.lowerHand userId).goto i (some (.lowerNeeds userId)))
  | .lowerNeeds userId => some (s.goto i (some (.lowerList userId)))
  | .lowerList userId => some (s.goto i (if userId ∈ s.speakers then some (.lowerRevoke userId) else none))
  | .lowerRevoke userId | .revokeRemove userId => some ((s.revokeMic userId).goto i none)
  | .grantNeeds userId => some (s.goto i (some (.grantHands userId)))
  | .grantHands userId => some (s.goto i (if s.raised userId then some (.grantAdd userId) else none))
  | .grantAdd userId => some ((s.grantMic userId).goto i none)
  | .pickGet userId => some (s.goto i (if s.raised userId then some (.pickClear userId) else none))
  | .pickClear userId => some ({ s with hands := [] }.goto i (some (.pickShow userId)))
  | .pickShow userId => some (s.goto i (some (.pickGrant userId)))
  | .pickGrant userId => some ({ s.grantMic userId with picked := some userId }.goto i none)
  | .drop c userId => (s.sockets.get c).map fun k => s.goto i (if k.shadow then none else some (.goFetch c userId))
  | .goFetch c userId => some (s.goto i (if s.userStillInRoom userId c then none else some (.goPresence userId)))
  | .goPresence userId => some (s.goto i (some (.goHand userId)))
  | .goHand userId => some ((s.lowerHand userId).goto i none)
  | .grantOwner _ | .revokeOwner _ | .pickOwner | .pickKeys => none

inductive Event
  | connect (c : Nat) (user : JwtPayload)
  /-- A join of any session: the flags are set, and the socket may be let in. -/
  | join (c : Nat) (sessionId : SessionId) (teach entered : Bool)
  | raise (i c : Nat)
  | lower (i c : Nat)
  | grant (i c : Nat) (userId : UserId)
  | revoke (i c : Nat) (userId : UserId)
  | pick (i c : Nat)
  | leave (i c : Nat)
  | disconnect (i c : Nat)
  /-- `isOwner` answers task `i`. -/
  | owner (i : Nat) (allowed : Bool)
  /-- The keys of the hands reach task `i`, and one is drawn. -/
  | draw (i choice : Nat)
  | resume (i : Nat)
  deriving DecidableEq

/-- A message of a connected socket that is no recorder's starts handler `i`. -/
def message (s : State) (i c : Nat) (handler : Sock → State) : Option State :=
  if s.tasks.get i = none then
    ((s.sockets.get c).filter fun k => k.connected && k.user.recorder.isNone).map handler
  else none

def leave (s : State) (i c : Nat) (k : Sock) : State :=
  (s.setSock c { k with inRoom := false }).goto i (if k.shadow then none else some (.goFetch c k.user.sub))

def disconnect (s : State) (i c : Nat) (k : Sock) : State :=
  (s.setSock c { k with connected := false, inRoom := false }).goto i
    (if k.inRoom then some (.drop c k.user.sub) else none)

variable (room : SessionId)

def Sock.joins (k : Sock) (sessionId : SessionId) (teach entered : Bool) : Sock :=
  { k with
    teaching := isTeaching k.user teach
    shadow := isShadow k.user sessionId teach
    inRoom := k.inRoom || (entered && sessionId == room) }

def step (s : State) : Event → Option State
  | .connect c user => if s.sockets.get c = none then some (s.setSock c (Sock.new user)) else none
  | .join c sessionId teach entered =>
    ((s.sockets.get c).filter (·.connected)).map fun k => s.setSock c (k.joins room sessionId teach entered)
  | .raise i c => message s i c fun k =>
    s.goto i (if k.inRoom && k.user.role == .student then some (.raise (roomUser k.user k.teaching)) else none)
  | .lower i c => message s i c fun k => s.goto i (if k.inRoom then some (.lower k.user.sub) else none)
  | .grant i c userId => message s i c fun _ => s.goto i (some (.grantOwner userId))
  | .revoke i c userId => message s i c fun _ => s.goto i (some (.revokeOwner userId))
  | .pick i c => message s i c fun _ => s.goto i (some .pickOwner)
  | .leave i c => message s i c (leave s i c)
  | .disconnect i c =>
    if s.tasks.get i = none then ((s.sockets.get c).filter (·.connected)).map (disconnect s i c) else none
  | .owner i allowed => match s.tasks.get i with
    | some (.grantOwner userId) => some (s.goto i (if allowed then some (.grantNeeds userId) else none))
    | some (.revokeOwner userId) => some (s.goto i (if allowed then some (.revokeRemove userId) else none))
    | some .pickOwner => some (s.goto i (if allowed then some .pickKeys else none))
    | _ => none
  | .draw i choice => match s.tasks.get i with
    | some .pickKeys =>
      if s.hands = [] then some (s.goto i none)
      else s.hands[choice]?.map fun user => s.goto i (some (.pickGet user.userId))
    | _ => none
  | .resume i => (s.tasks.get i).bind (resume s i)

/-! ## The property -/

/-- The socket of a student who is in the room for all to see. -/
def Sock.seen (k : Sock) : Bool :=
  k.connected && k.inRoom && k.user.role == .student && k.user.recorder.isNone

/-- The user has a visible socket in the room, its number passing `p`. -/
def showsOn (s : State) (p : Nat → Bool) (userId : UserId) : Bool :=
  s.sockets.entries.any fun q => p q.1 && q.2.seen && q.2.user.sub == userId

abbrev shows (s : State) (userId : UserId) : Bool := showsOn s (fun _ => true) userId

structure MicFollows (s : State) : Prop where
  hand : ∀ userId ∈ s.speakers, s.raised userId = true ∨ s.picked = some userId
  gone : ∀ userId, shows s userId = false → userId ∉ s.speakers

/-! ## When the microphone follows -/

/-- The user a task is bound to take the microphone from. -/
def Task.revokes : Task → Option UserId
  | .lowerNeeds u | .lowerList u | .lowerRevoke u | .revokeRemove u => some u
  | _ => none

/-- The user a pick is about to hand the microphone to, the queue having been cleared. -/
def Task.picks : Task → Option UserId
  | .pickShow u | .pickGrant u => some u
  | _ => none

def revoking (s : State) (userId : UserId) : Bool := s.tasks.occupied Task.revokes userId

def picking (s : State) (userId : UserId) : Bool := s.tasks.occupied Task.picks userId

/-- The user may do without a raised hand. -/
def stands (s : State) (userId : UserId) : Bool := s.picked == some userId || revoking s userId || picking s userId

/-- A user is in the room, or about to lose the microphone. -/
def heard (s : State) (userId : UserId) : Bool := shows s userId || revoking s userId

/-- A student whose last visible socket leaves, and one whose hand a departure or a pick lowers, does not hold the
microphone, or is about to lose it; it is granted to a student in the room whose hand is up, or who has been picked;
and a pick replaces no speaker of an earlier one. -/
def micHeld (s : State) : Event → Bool
  | .leave _ c | .disconnect _ c => (s.sockets.get c).all fun k =>
    !k.seen || !s.speakers.contains k.user.sub || revoking s k.user.sub || showsOn s (· != c) k.user.sub
  | .resume i => match s.tasks.get i with
    | some (.goHand userId) => !s.speakers.contains userId || stands s userId
    | some (.pickClear userId) => s.speakers.all fun v => v == userId || stands s v
    | some (.pickGrant userId) => heard s userId && s.speakers.all fun v =>
      v == userId || s.picked != some v || s.raised v || revoking s v || picking s v
    | some (.grantAdd userId) => (s.raised userId || stands s userId) && heard s userId
    | _ => true
  | _ => true

/-! ## Who is seen -/

theorem showsOn_iff {s : State} {p : Nat → Bool} {userId : UserId} : showsOn s p userId = true ↔
    ∃ c k, p c = true ∧ s.sockets.get c = some k ∧ k.seen = true ∧ k.user.sub = userId := by
  unfold showsOn
  rw [List.any_eq_true]
  constructor
  · rintro ⟨⟨c, k⟩, hk, h⟩
    simp only [Bool.and_eq_true, beq_iff_eq] at h
    exact ⟨c, k, h.1.1, Pool.get_of_mem hk, h.1.2, h.2⟩
  · rintro ⟨c, k, hp, hk, hseen, hsub⟩
    refine ⟨(c, k), Pool.mem_of_get hk, ?_⟩
    simp only [Bool.and_eq_true, beq_iff_eq]
    exact ⟨⟨hp, hseen⟩, hsub⟩

/-- A user stays visible when the socket written is not the one that shows it, or still does. -/
theorem shows_setSock {s : State} {c : Nat} {k : Sock} {userId : UserId} (h : shows s userId = true)
    (hk : ∀ k₀, s.sockets.get c = some k₀ → k₀.seen = true → k₀.user.sub = userId →
      (k.seen = true ∧ k.user.sub = userId) ∨ showsOn s (· != c) userId = true) :
    shows (s.setSock c k) userId = true := by
  have hget : (s.setSock c k).sockets.get = s.sockets.get.put c (some k) := Pool.get_put _ _ _
  have hother : ∀ d k', d ≠ c → s.sockets.get d = some k' → k'.seen = true → k'.user.sub = userId →
      shows (s.setSock c k) userId = true := by
    intro d k' hdc hd hseen hsub
    exact showsOn_iff.2 ⟨d, k', rfl, by rw [hget, Slots.put_of_ne _ _ hdc, hd], hseen, hsub⟩
  obtain ⟨d, k', -, hd, hseen, hsub⟩ := showsOn_iff.1 h
  by_cases hdc : d = c
  · subst hdc
    rcases hk k' hd hseen hsub with ⟨hseen', hsub'⟩ | helse
    · exact showsOn_iff.2 ⟨d, k, rfl, by rw [hget, Slots.put_self], hseen', hsub'⟩
    · obtain ⟨d', k'', hne, hd', hseen'', hsub''⟩ := showsOn_iff.1 helse
      exact hother d' k'' (bne_iff_ne.1 hne) hd' hseen'' hsub''
  · exact hother d k' hdc hd hseen hsub

/-! ## The invariant -/

/-- Whoever holds the microphone has a hand up or may do without, and is in the room; or is about to lose it. -/
structure Inv (s : State) : Prop where
  hand : ∀ userId ∈ s.speakers, s.raised userId = true ∨ stands s userId = true
  gone : ∀ userId ∈ s.speakers, heard s userId = true

theorem stands_iff {s : State} {u : UserId} :
    stands s u = true ↔ s.picked = some u ∨ revoking s u = true ∨ picking s u = true := by
  unfold stands
  rw [Bool.or_eq_true, Bool.or_eq_true, beq_iff_eq, or_assoc]

theorem heard_iff {s : State} {u : UserId} : heard s u = true ↔ shows s u = true ∨ revoking s u = true := by
  unfold heard
  rw [Bool.or_eq_true]

/-- What a step leaves of whoever goes on speaking. -/
theorem Inv.next {s s' : State} (h : Inv s) (hspeakers : ∀ u ∈ s'.speakers, u ∈ s.speakers)
    (hhand : ∀ u ∈ s'.speakers, s.raised u = true ∨ stands s u = true → s'.raised u = true ∨ stands s' u = true)
    (hgone : ∀ u ∈ s'.speakers, heard s u = true → heard s' u = true) : Inv s' :=
  ⟨fun u hu => hhand u hu (h.hand u (hspeakers u hu)), fun u hu => hgone u hu (h.gone u (hspeakers u hu))⟩

/-- The task that moves neither takes the microphone from anyone nor hands it over. -/
def Idle (s : State) (i : Nat) : Prop := ∀ t, s.tasks.get i = some t → t.revokes = none ∧ t.picks = none

theorem revoking_goto {s : State} {i : Nat} {t : Option Task} {u : UserId} (h : revoking s u = true)
    (hkeep : ∀ v, s.tasks.get i = some v → v.revokes = some u → t.bind Task.revokes = some u) :
    revoking (s.goto i t) u = true :=
  Pool.occupied_put h hkeep

theorem picking_goto {s : State} {i : Nat} {t : Option Task} {u : UserId} (h : picking s u = true)
    (hkeep : ∀ v, s.tasks.get i = some v → v.picks = some u → t.bind Task.picks = some u) :
    picking (s.goto i t) u = true :=
  Pool.occupied_put h hkeep

theorem Idle.revoking {s : State} {i : Nat} {t : Option Task} {u : UserId} (hi : Idle s i)
    (h : Hands.revoking s u = true) : Hands.revoking (s.goto i t) u = true :=
  revoking_goto h fun v hv hu => by
    rw [(hi v hv).1] at hu
    cases hu

theorem Idle.picking {s : State} {i : Nat} {t : Option Task} {u : UserId} (hi : Idle s i)
    (h : Hands.picking s u = true) : Hands.picking (s.goto i t) u = true :=
  picking_goto h fun v hv hu => by
    rw [(hi v hv).2] at hu
    cases hu

theorem Idle.stands {s : State} {i : Nat} {t : Option Task} {u : UserId} (hi : Idle s i)
    (h : Hands.stands s u = true) : Hands.stands (s.goto i t) u = true := by
  rcases stands_iff.1 h with hpicked | hrevoking | hpicking
  · exact stands_iff.2 (.inl hpicked)
  · exact stands_iff.2 (.inr (.inl (hi.revoking hrevoking)))
  · exact stands_iff.2 (.inr (.inr (hi.picking hpicking)))

theorem Idle.heard {s : State} {i : Nat} {t : Option Task} {u : UserId} (hi : Idle s i)
    (h : Hands.heard s u = true) : Hands.heard (s.goto i t) u = true := by
  rcases heard_iff.1 h with hshows | hrevoking
  · exact heard_iff.2 (.inl hshows)
  · exact heard_iff.2 (.inr (hi.revoking hrevoking))

theorem idle_free {s : State} {i : Nat} (h : s.tasks.get i = none) : Idle s i := by
  intro t ht
  rw [h] at ht
  cases ht

theorem idle_of {s : State} {i : Nat} {t : Task} (h : s.tasks.get i = some t) (hr : t.revokes = none)
    (hp : t.picks = none) : Idle s i := by
  intro u hu
  rw [h, Option.some.injEq] at hu
  rw [← hu]
  exact ⟨hr, hp⟩

/-- Such a task goes on, or ends. -/
theorem Inv.goto {s : State} {i : Nat} {t : Option Task} (h : Inv s) (hi : Idle s i) : Inv (s.goto i t) := by
  refine h.next (fun _ hu => hu) (fun u _ hhand => ?_) fun u _ => hi.heard
  rcases hhand with hraised | hstands
  · exact .inl hraised
  · exact .inr (hi.stands hstands)

/-- A task goes on in whose hands the microphone is. -/
theorem Inv.keep {s : State} {i : Nat} {t u : Task} (h : Inv s) (hi : s.tasks.get i = some t)
    (hr : u.revokes = t.revokes) (hp : u.picks = t.picks) : Inv (s.goto i (some u)) := by
  have hrevoking : ∀ v, revoking s v = true → revoking (s.goto i (some u)) v = true := by
    refine fun v hv => revoking_goto hv fun w hw hrevokes => ?_
    rw [hi, Option.some.injEq] at hw
    rw [Option.bind_some, hr, hw]
    exact hrevokes
  have hpicking : ∀ v, picking s v = true → picking (s.goto i (some u)) v = true := by
    refine fun v hv => picking_goto hv fun w hw hpicks => ?_
    rw [hi, Option.some.injEq] at hw
    rw [Option.bind_some, hp, hw]
    exact hpicks
  refine h.next (fun _ hv => hv) (fun v _ hhand => ?_) fun v _ hheard => ?_
  · rcases hhand with hraised | hstands
    · exact .inl hraised
    · rcases stands_iff.1 hstands with hpicked | hv | hv
      · exact .inr (stands_iff.2 (.inl hpicked))
      · exact .inr (stands_iff.2 (.inr (.inl (hrevoking v hv))))
      · exact .inr (stands_iff.2 (.inr (.inr (hpicking v hv))))
  · rcases heard_iff.1 hheard with hshows | hv
    · exact heard_iff.2 (.inl hshows)
    · exact heard_iff.2 (.inr (hrevoking v hv))

/-! ## Sockets -/

theorem Inv.setSock {s : State} {c : Nat} {k : Sock} (h : Inv s)
    (hk : ∀ k₀ u, s.sockets.get c = some k₀ → k₀.seen = true → k₀.user.sub = u → u ∈ s.speakers →
      (k.seen = true ∧ k.user.sub = u) ∨ showsOn s (· != c) u = true ∨ revoking s u = true) :
    Inv (s.setSock c k) := by
  refine ⟨h.hand, fun u hu => ?_⟩
  rcases heard_iff.1 (h.gone u hu) with hshows | hrevoking
  · by_cases hr : revoking s u = true
    · exact heard_iff.2 (.inr hr)
    · refine heard_iff.2 (.inl (shows_setSock hshows fun k₀ hc hseen hsub => ?_))
      rcases hk k₀ u hc hseen hsub hu with hnew | helse | hrevoking
      · exact .inl hnew
      · exact .inr helse
      · exact absurd hrevoking hr
  · exact heard_iff.2 (.inr hrevoking)

/-- A socket goes whose user does not hold the microphone, is about to lose it, or is seen elsewhere. -/
theorem Inv.goes {s : State} {c : Nat} {k k' : Sock} (h : Inv s) (hc : s.sockets.get c = some k)
    (hok : (!k.seen || !s.speakers.contains k.user.sub || revoking s k.user.sub ||
      showsOn s (· != c) k.user.sub) = true) : Inv (s.setSock c k') := by
  refine h.setSock fun k₀ u hk₀ hseen hsub hu => ?_
  rw [hc, Option.some.injEq] at hk₀
  subst hk₀
  subst hsub
  have hmem : s.speakers.contains k.user.sub = true := List.contains_iff_mem.2 hu
  rw [hseen, hmem] at hok
  simp only [Bool.not_true, Bool.or_eq_true, Bool.false_eq_true, false_or] at hok
  rcases hok with hrevoking | helse
  · exact .inr (.inr hrevoking)
  · exact .inr (.inl helse)

/-! ## The microphone -/

theorem mem_grantMic {s : State} {u v : UserId} : v ∈ (s.grantMic u).speakers ↔ v ∈ s.speakers ∨ v = u := by
  unfold State.grantMic
  dsimp only
  split
  · rename_i hu
    constructor
    · exact .inl
    · rintro (hv | rfl)
      · exact hv
      · exact hu
  · rw [List.mem_append, List.mem_singleton]

theorem mem_revokeMic {s : State} {u v : UserId} : v ∈ (s.revokeMic u).speakers ↔ v ∈ s.speakers ∧ v ≠ u := by
  unfold State.revokeMic
  rw [List.mem_filter, bne_iff_ne]

theorem raised_raiseHand {s : State} {user : RoomUser} {u : UserId} (h : s.raised u = true) :
    (s.raiseHand user).raised u = true := by
  unfold State.raised State.raiseHand at *
  rw [List.any_append, Bool.or_eq_true]
  by_cases hu : u = user.userId
  · right
    rw [hu]
    simp
  · left
    rw [List.any_eq_true] at h ⊢
    obtain ⟨x, hx, hsub⟩ := h
    refine ⟨x, List.mem_filter.2 ⟨hx, ?_⟩, hsub⟩
    rw [beq_iff_eq] at hsub
    rw [hsub, bne_iff_ne]
    exact hu

theorem raised_lowerHand {s : State} {u v : UserId} (h : s.raised v = true) (hv : v ≠ u) :
    (s.lowerHand u).raised v = true := by
  unfold State.raised State.lowerHand at *
  rw [List.any_eq_true] at h ⊢
  obtain ⟨x, hx, hsub⟩ := h
  refine ⟨x, List.mem_filter.2 ⟨hx, ?_⟩, hsub⟩
  rw [beq_iff_eq] at hsub
  rw [hsub, bne_iff_ne]
  exact hv

/-- The microphone is taken away, and the task ends that took it. -/
theorem Inv.revoke {s : State} {i : Nat} {t : Task} {u : UserId} (h : Inv s) (hi : s.tasks.get i = some t)
    (hr : t.revokes = some u) (hp : t.picks = none) : Inv ((s.revokeMic u).goto i none) := by
  have hrevoking : ∀ v, v ≠ u → revoking s v = true → revoking ((s.revokeMic u).goto i none) v = true := by
    refine fun v hv hrev => revoking_goto (s := s.revokeMic u) hrev fun w hw hwv => ?_
    rw [show (s.revokeMic u).tasks = s.tasks from rfl, hi, Option.some.injEq] at hw
    rw [← hw, hr, Option.some.injEq] at hwv
    exact absurd hwv.symm hv
  have hpicking : ∀ v, picking s v = true → picking ((s.revokeMic u).goto i none) v = true := by
    refine fun v hpick => picking_goto (s := s.revokeMic u) hpick fun w hw hwv => ?_
    rw [show (s.revokeMic u).tasks = s.tasks from rfl, hi, Option.some.injEq] at hw
    rw [← hw, hp] at hwv
    cases hwv
  refine h.next (fun v hv => (mem_revokeMic.1 hv).1) (fun v hv hhand => ?_) fun v hv hheard => ?_
  · have hvu := (mem_revokeMic.1 hv).2
    rcases hhand with hraised | hstands
    · exact .inl hraised
    · right
      rcases stands_iff.1 hstands with hpicked | hrev | hpick
      · refine stands_iff.2 (.inl ?_)
        show s.picked.filter (· != u) = some v
        rw [hpicked, Option.filter_some, if_pos (bne_iff_ne.2 hvu)]
      · exact stands_iff.2 (.inr (.inl (hrevoking v hvu hrev)))
      · exact stands_iff.2 (.inr (.inr (hpicking v hpick)))
  · rcases heard_iff.1 hheard with hshows | hrev
    · exact heard_iff.2 (.inl hshows)
    · exact heard_iff.2 (.inr (hrevoking v (mem_revokeMic.1 hv).2 hrev))

/-- The microphone is granted to a user who is entitled to it. -/
theorem Inv.grant {s : State} {i : Nat} {u : UserId} (h : Inv s) (hi : Idle s i)
    (hhand : s.raised u = true ∨ stands s u = true) (hheard : heard s u = true) :
    Inv ((s.grantMic u).goto i none) := by
  have hgranted : Inv (s.grantMic u) := by
    refine ⟨fun v hv => ?_, fun v hv => ?_⟩
    · rcases mem_grantMic.1 hv with hold | rfl
      · exact h.hand v hold
      · exact hhand
    · rcases mem_grantMic.1 hv with hold | rfl
      · exact h.gone v hold
      · exact hheard
  exact hgranted.goto hi

/-! ## The pick -/

theorem Inv.clear {s : State} {i : Nat} {u : UserId} (h : Inv s) (hi : Idle s i)
    (hok : s.speakers.all (fun v => v == u || stands s v) = true) :
    Inv ({ s with hands := [] }.goto i (some (.pickShow u))) := by
  rw [List.all_eq_true] at hok
  refine h.next (fun _ hv => hv) (fun v hv _ => .inr ?_) fun v _ => hi.heard
  rcases Bool.or_eq_true_iff.1 (hok v hv) with heq | hstands
  · rw [beq_iff_eq] at heq
    subst heq
    exact stands_iff.2 (.inr (.inr (Pool.occupied_put_self rfl)))
  · exact hi.stands hstands

theorem Inv.picked {s : State} {i : Nat} {u : UserId} (h : Inv s) (hi : s.tasks.get i = some (.pickGrant u))
    (hheard : heard s u = true) (hok : s.speakers.all (fun v =>
      v == u || s.picked != some v || s.raised v || revoking s v || picking s v) = true) :
    Inv ({ s.grantMic u with picked := some u }.goto i none) := by
  have hrevoking : ∀ v, revoking s v = true →
      revoking ({ s.grantMic u with picked := some u }.goto i none) v = true := by
    refine fun v hrev => revoking_goto (s := { s.grantMic u with picked := some u }) hrev fun w hw hwv => ?_
    rw [show ({ s.grantMic u with picked := some u } : State).tasks = s.tasks from rfl, hi, Option.some.injEq] at hw
    rw [← hw] at hwv
    cases hwv
  have hpicking : ∀ v, v ≠ u → picking s v = true →
      picking ({ s.grantMic u with picked := some u }.goto i none) v = true := by
    refine fun v hv hpick => picking_goto (s := { s.grantMic u with picked := some u }) hpick fun w hw hwv => ?_
    rw [show ({ s.grantMic u with picked := some u } : State).tasks = s.tasks from rfl, hi, Option.some.injEq] at hw
    rw [← hw] at hwv
    exact absurd (Option.some.inj hwv).symm hv
  have hstays : ∀ v, heard s v = true → heard ({ s.grantMic u with picked := some u }.goto i none) v = true := by
    intro v hv
    rcases heard_iff.1 hv with hshows | hrev
    · exact heard_iff.2 (.inl hshows)
    · exact heard_iff.2 (.inr (hrevoking v hrev))
  rw [List.all_eq_true] at hok
  refine ⟨fun v hv => ?_, fun v hv => ?_⟩
  · by_cases hvu : v = u
    · exact .inr (stands_iff.2 (.inl (by rw [hvu]; rfl)))
    · have hold : v ∈ s.speakers := (mem_grantMic.1 hv).resolve_right hvu
      have hrest := hok v hold
      simp only [Bool.or_eq_true, beq_iff_eq, bne_iff_ne, hvu, false_or] at hrest
      have hcases : s.raised v = true ∨ revoking s v = true ∨ picking s v = true := by
        rcases h.hand v hold with hraised | hstands
        · exact .inl hraised
        · rcases stands_iff.1 hstands with hpicked | hrev | hpick
          · rcases hrest with ((hnot | hraised) | hrev) | hpick
            · exact absurd hpicked hnot
            · exact .inl hraised
            · exact .inr (.inl hrev)
            · exact .inr (.inr hpick)
          · exact .inr (.inl hrev)
          · exact .inr (.inr hpick)
      rcases hcases with hraised | hrev | hpick
      · exact .inl hraised
      · exact .inr (stands_iff.2 (.inr (.inl (hrevoking v hrev))))
      · exact .inr (stands_iff.2 (.inr (.inr (hpicking v hvu hpick))))
  · rcases mem_grantMic.1 hv with hold | rfl
    · exact hstays v (h.gone v hold)
    · exact hstays v hheard

/-! ## Lowering a hand -/

/-- The hand goes down of a user who does not speak, or may do without. -/
theorem Inv.lowerHand {s : State} {u : UserId} (h : Inv s) (hok : u ∈ s.speakers → stands s u = true) :
    Inv (s.lowerHand u) := by
  refine ⟨fun v hv => ?_, h.gone⟩
  by_cases hvu : v = u
  · subst hvu
    exact .inr (hok hv)
  · rcases h.hand v hv with hraised | hstands
    · exact .inl (raised_lowerHand hraised hvu)
    · exact .inr hstands

/-- `onHandLower` lowers the hand, and will take the microphone away. -/
theorem Inv.lower {s : State} {i : Nat} {u : UserId} (h : Inv s) (hi : Idle s i) :
    Inv ((s.lowerHand u).goto i (some (.lowerNeeds u))) := by
  have hgone : Inv (s.goto i (some (.lowerNeeds u))) := h.goto hi
  have hlowered : Inv ((s.goto i (some (.lowerNeeds u))).lowerHand u) :=
    hgone.lowerHand fun _ => stands_iff.2 (.inr (.inl (Pool.occupied_put_self rfl)))
  exact hlowered

/-- `onHandLower` has read who speaks. -/
theorem Inv.list {s : State} {i : Nat} {u : UserId} (h : Inv s) (hi : s.tasks.get i = some (.lowerList u)) :
    Inv (s.goto i (if u ∈ s.speakers then some (.lowerRevoke u) else none)) := by
  split
  · exact h.keep hi rfl rfl
  · rename_i hnot
    have hrevoking : ∀ v ∈ s.speakers, revoking s v = true → revoking (s.goto i none) v = true := by
      refine fun v hv hrev => revoking_goto hrev fun w hw hwv => ?_
      rw [hi, Option.some.injEq] at hw
      rw [← hw] at hwv
      cases hwv
      exact absurd hv hnot
    have hpicking : ∀ v, picking s v = true → picking (s.goto i none) v = true := by
      refine fun v hpick => picking_goto hpick fun w hw hwv => ?_
      rw [hi, Option.some.injEq] at hw
      rw [← hw] at hwv
      cases hwv
    refine h.next (fun _ hv => hv) (fun v hv hhand => ?_) fun v hv hheard => ?_
    · rcases hhand with hraised | hstands
      · exact .inl hraised
      · rcases stands_iff.1 hstands with hpicked | hrev | hpick
        · exact .inr (stands_iff.2 (.inl hpicked))
        · exact .inr (stands_iff.2 (.inr (.inl (hrevoking v hv hrev))))
        · exact .inr (stands_iff.2 (.inr (.inr (hpicking v hpick))))
    · rcases heard_iff.1 hheard with hshows | hrev
      · exact heard_iff.2 (.inl hshows)
      · exact heard_iff.2 (.inr (hrevoking v hv hrev))

/-! ## Runs -/

theorem Inv.raise {s : State} (h : Inv s) (user : RoomUser) : Inv (s.raiseHand user) := by
  refine ⟨fun v hv => ?_, h.gone⟩
  rcases h.hand v hv with hraised | hstands
  · exact .inl (raised_raiseHand hraised)
  · exact .inr hstands

theorem Inv.resume {s s' : State} {i : Nat} {t : Task} (h : Inv s) (ht : s.tasks.get i = some t)
    (hok : micHeld s (.resume i) = true) (hs : Hands.resume s i t = some s') : Inv s' := by
  simp only [micHeld, ht] at hok
  cases t with
  | raise user =>
    cases hs
    exact (h.raise user).goto (idle_of (s := s.raiseHand user) ht rfl rfl)
  | lower u =>
    cases hs
    exact h.lower (idle_of ht rfl rfl)
  | lowerNeeds u =>
    cases hs
    exact h.keep ht rfl rfl
  | lowerList u =>
    cases hs
    exact h.list ht
  | lowerRevoke u =>
    cases hs
    exact h.revoke ht rfl rfl
  | revokeRemove u =>
    cases hs
    exact h.revoke ht rfl rfl
  | grantAdd u =>
    cases hs
    rw [Bool.and_eq_true, Bool.or_eq_true] at hok
    exact h.grant (idle_of ht rfl rfl) hok.1 hok.2
  | pickClear u =>
    cases hs
    exact h.clear (idle_of ht rfl rfl) hok
  | pickShow u =>
    cases hs
    exact h.keep ht rfl rfl
  | pickGrant u =>
    cases hs
    rw [Bool.and_eq_true] at hok
    exact h.picked ht hok.1 hok.2
  | drop c u =>
    obtain ⟨k, -, rfl⟩ := Option.map_eq_some_iff.1 hs
    exact h.goto (idle_of ht rfl rfl)
  | goHand u =>
    cases hs
    have hlowered : Inv (s.lowerHand u) := by
      refine h.lowerHand fun hu => ?_
      dsimp only at hok
      rw [List.contains_iff_mem.2 hu] at hok
      simpa using hok
    exact hlowered.goto (idle_of (s := s.lowerHand u) ht rfl rfl)
  | grantNeeds u | grantHands u | pickGet u | goFetch c u | goPresence u =>
    cases hs
    exact h.goto (idle_of ht rfl rfl)
  | grantOwner u | revokeOwner u | pickOwner | pickKeys => cases hs

variable (room : SessionId)

/-- A message that only starts its handler. -/
theorem message_some {s s' : State} {i c : Nat} {handler : Sock → State} (h : message s i c handler = some s') :
    s.tasks.get i = none ∧ ∃ k, s.sockets.get c = some k ∧ s' = handler k := by
  unfold message at h
  rw [Option.ite_none_right_eq_some] at h
  obtain ⟨hi, h⟩ := h
  obtain ⟨k, hk, rfl⟩ := Option.map_eq_some_iff.1 h
  exact ⟨hi, k, (Option.filter_eq_some_iff.1 hk).1, rfl⟩

theorem Inv.step {s s' : State} {e : Event} (h : Inv s) (hok : micHeld s e = true)
    (hs : Hands.step room s e = some s') : Inv s' := by
  cases e with
  | connect c user =>
    unfold Hands.step at hs
    simp only [Option.ite_none_right_eq_some, Option.some.injEq] at hs
    obtain ⟨hc, rfl⟩ := hs
    refine h.setSock fun k₀ u hk₀ => ?_
    rw [hc] at hk₀
    cases hk₀
  | join c sessionId teach entered =>
    unfold Hands.step at hs
    dsimp only at hs
    obtain ⟨k, hk, rfl⟩ := Option.map_eq_some_iff.1 hs
    obtain ⟨hc, -⟩ := Option.filter_eq_some_iff.1 hk
    refine h.setSock fun k₀ u hk₀ hseen hsub _ => .inl ⟨?_, ?_⟩
    · rw [hc, Option.some.injEq] at hk₀
      rw [← hk₀] at hseen
      unfold Sock.seen Sock.joins at *
      simp only [Bool.and_eq_true] at hseen ⊢
      exact ⟨⟨⟨hseen.1.1.1, by rw [hseen.1.1.2]; rfl⟩, hseen.1.2⟩, hseen.2⟩
    · rw [hc, Option.some.injEq] at hk₀
      rw [← hk₀] at hsub
      exact hsub
  | raise i c =>
    obtain ⟨hi, k, -, rfl⟩ := message_some hs
    exact h.goto (idle_free hi)
  | lower i c =>
    obtain ⟨hi, k, -, rfl⟩ := message_some hs
    exact h.goto (idle_free hi)
  | grant i c userId =>
    obtain ⟨hi, k, -, rfl⟩ := message_some hs
    exact h.goto (idle_free hi)
  | revoke i c userId =>
    obtain ⟨hi, k, -, rfl⟩ := message_some hs
    exact h.goto (idle_free hi)
  | pick i c =>
    obtain ⟨hi, k, -, rfl⟩ := message_some hs
    exact h.goto (idle_free hi)
  | leave i c =>
    obtain ⟨hi, k, hk, rfl⟩ := message_some hs
    simp only [micHeld, hk, Option.all_some] at hok
    exact (h.goes hk hok).goto (idle_free (s := s.setSock c { k with inRoom := false }) hi)
  | disconnect i c =>
    unfold Hands.step at hs
    simp only [Option.ite_none_right_eq_some] at hs
    obtain ⟨hi, hs⟩ := hs
    obtain ⟨k, hk, rfl⟩ := Option.map_eq_some_iff.1 hs
    obtain ⟨hk, -⟩ := Option.filter_eq_some_iff.1 hk
    simp only [micHeld, hk, Option.all_some] at hok
    exact (h.goes hk hok).goto (idle_free (s := s.setSock c { k with connected := false, inRoom := false }) hi)
  | owner i allowed =>
    unfold Hands.step at hs
    dsimp only at hs
    split at hs
    · rename_i u ht
      cases hs
      exact h.goto (idle_of ht rfl rfl)
    · rename_i u ht
      cases hs
      exact h.goto (idle_of ht rfl rfl)
    · rename_i ht
      cases hs
      exact h.goto (idle_of ht rfl rfl)
    · cases hs
  | draw i choice =>
    unfold Hands.step at hs
    dsimp only at hs
    split at hs
    · rename_i ht
      split at hs
      · cases hs
        exact h.goto (idle_of ht rfl rfl)
      · obtain ⟨user, -, rfl⟩ := Option.map_eq_some_iff.1 hs
        exact h.goto (idle_of ht rfl rfl)
    · cases hs
  | resume i =>
    obtain ⟨t, ht, hs⟩ := Option.bind_eq_some_iff.1 hs
    exact h.resume ht hok hs

theorem inv_init : Inv init := by
  refine ⟨?_, ?_⟩
  · rintro u ⟨⟩
  · rintro u ⟨⟩

theorem Inv.follows {s : State} (h : Inv s) (hrest : s.tasks.entries = []) : MicFollows s := by
  have hnone : ∀ (f : Task → Option UserId) u, s.tasks.occupied f u = false := by
    intro f u
    unfold Pool.occupied
    rw [hrest]
    rfl
  constructor
  · intro u hu
    rcases h.hand u hu with hraised | hstands
    · exact .inl hraised
    · rcases stands_iff.1 hstands with hpicked | hrev | hpick
      · exact .inr hpicked
      · rw [revoking, hnone] at hrev
        cases hrev
      · rw [picking, hnone] at hpick
        cases hpick
  · intro u hshows hu
    rcases heard_iff.1 (h.gone u hu) with hs | hrev
    · rw [hshows] at hs
      cases hs
    · rw [revoking, hnone] at hrev
      cases hrev

namespace Example

def student (sub : UserId) : JwtPayload := ⟨sub, .student, sub, none, none, none⟩

def instructor : JwtPayload := ⟨"ustadh", .instructor, "Ustadh", none, none, none⟩

/-- The instructor and two students are in the room. -/
def arrive : List Event :=
  [.connect 0 instructor, .join 0 "s" false true, .connect 1 (student "amina"), .join 1 "s" false true,
    .connect 2 (student "bilal"), .join 2 "s" false true]

/-- The student of socket `c` raises a hand and is granted the microphone. -/
def speak (c : Nat) (userId : UserId) : List Event :=
  [.raise 0 c, .resume 0, .grant 0 0 userId, .owner 0 true, .resume 0, .resume 0, .resume 0]

/-- One student lowers the hand, and the other is picked. -/
def lesson : List Event :=
  arrive ++ speak 1 "amina" ++ [.lower 0 1, .resume 0, .resume 0, .resume 0, .resume 0] ++
    [.raise 0 2, .resume 0, .pick 0 0, .owner 0 true, .draw 0 0, .resume 0, .resume 0, .resume 0, .resume 0]

/-- A student leaves the room with the microphone. -/
def departure : List Event := arrive ++ speak 1 "amina" ++ [.leave 0 1, .resume 0, .resume 0, .resume 0]

/-- A pick clears the queue while another student speaks with a hand up. -/
def queue : List Event :=
  arrive ++ speak 1 "amina" ++ [.raise 0 2, .resume 0, .pick 0 0, .owner 0 true, .draw 0 1, .resume 0, .resume 0,
    .resume 0, .resume 0]

end Example

end Livetich.Room.Hands
