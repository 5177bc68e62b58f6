/-
Teach mode: `onJoin` of the room and of the board gateway keep one flag for a socket, and the handlers read
it whatever session their message names. The joins of one socket run from one awaited answer to the next.
-/
import Livetich.Room.Membership

namespace Livetich.Room.TeachMode

open TransSys Membership

inductive Nsp
  | root
  | board
  deriving DecidableEq

/-- The data of a socket. -/
structure Sock where
  nsp : Nsp
  user : JwtPayload
  teaching : Bool
  sessionIds : List SessionId
  deriving DecidableEq

/-- A call of `onJoin`, by what it waits for. -/
inductive Task
  | auth (sessionId : SessionId) (teach : Bool)
  | finding (sessionId : SessionId) (teach : Bool)
  /-- The board has let the caller in and loads the document. -/
  | retaining (sessionId : SessionId)
  deriving DecidableEq

/-- A join of an open session, and whether the caller was let in. -/
structure Decided where
  sessionId : SessionId
  teach : Bool
  accepted : Bool
  deriving DecidableEq

structure State where
  sock : Sock
  tasks : Pool Task
  /-- The newest first; no handler reads this. -/
  decided : List Decided

/-- What the account check says, the session row, and whether there is an enrolment. -/
structure Reply where
  permitted : Bool
  session : Option LiveSession
  enrolled : Bool
  deriving DecidableEq

inductive Event
  | join (i : Nat) (sessionId : SessionId) (teach : Bool)
  | resume (i : Nat) (reply : Reply)
  | leave (sessionId : SessionId)
  /-- Any other message; their handlers write nothing of the socket's data. -/
  | other
  deriving DecidableEq

def fresh (nsp : Nsp) (user : JwtPayload) : State := ⟨⟨nsp, user, false, []⟩, Pool.empty, []⟩

/-! ## Host powers -/

/-- `BoardGateway.canPresent`. -/
def canPresent (user : JwtPayload) (teaching : Bool) : Bool := user.role == .instructor || teaching

/-- What lets a message about this session do what a host may: `ownedSession` in the room, `inRoom` and
`canPresent` on the board. -/
def Sock.hosts (k : Sock) (session : LiveSession) : Bool :=
  match k.nsp with
  | .root => mayHost k.user k.teaching && (ownedSession k.user (some session)).isSome
  | .board => k.sessionIds.contains session.id && canPresent k.user k.teaching

/-! ## Joining -/

def Sock.enter (k : Sock) (sessionId : SessionId) : Sock :=
  { k with sessionIds := k.sessionIds.filter (· != sessionId) ++ [sessionId] }

/-- What `onJoin` writes of the flag before it lets the caller in: on the board a recorder of another session
is turned away earlier, and a recorder never presents. -/
def Sock.setTeaching (k : Sock) (sessionId : SessionId) (teach : Bool) : Sock :=
  match k.nsp with
  | .root => { k with teaching := isTeaching k.user teach }
  | .board =>
    if k.user.recorder.isSome && !isRecorder k.user sessionId then k
    else { k with teaching := !isRecorder k.user sessionId && isTeaching k.user teach }

/-- Whether the caller is let in. -/
def accepts (user : JwtPayload) (session : LiveSession) (enrolled : Bool) : Bool :=
  match verdict user session.id session with
  | .refuse => false
  | .enter => true
  | .ifEnrolled => enrolled

/-- `onJoin` once the row of an open session is read. -/
def State.decide (s : State) (i : Nat) (teach : Bool) (session : LiveSession) (enrolled : Bool) : State :=
  let k := s.sock.setTeaching session.id teach
  let accepted := accepts k.user session enrolled
  { sock := if accepted && k.nsp = .root then k.enter session.id else k
    tasks := s.tasks.put i (if accepted && k.nsp = .board then some (.retaining session.id) else none)
    decided := ⟨session.id, teach, accepted⟩ :: s.decided }

/-- The session asked for, if it is there and has not ended. -/
def Reply.opened (reply : Reply) (sessionId : SessionId) : Option LiveSession :=
  reply.session.filter fun session => session.id = sessionId ∧ session.status ≠ .ended

def State.resume (s : State) (i : Nat) (reply : Reply) : Task → State
  | .auth sessionId teach =>
    -- `/board` replays its state to a socket that joins again.
    if !reply.permitted || (s.sock.nsp = .board && s.sock.sessionIds.contains sessionId) then
      { s with tasks := s.tasks.put i none }
    else { s with tasks := s.tasks.put i (some (.finding sessionId teach)) }
  | .finding sessionId teach =>
    match reply.opened sessionId with
    | none => { s with tasks := s.tasks.put i none }
    | some session => s.decide i teach session reply.enrolled
  | .retaining sessionId => { s with sock := s.sock.enter sessionId, tasks := s.tasks.put i none }

def step (s : State) : Event → Option State
  | .join i sessionId teach =>
    if (s.tasks.get i).isSome then none else some { s with tasks := s.tasks.put i (some (.auth sessionId teach)) }
  | .resume i reply => (s.tasks.get i).map (s.resume i reply)
  | .leave sessionId =>
    some { s with sock := { s.sock with sessionIds := s.sock.sessionIds.filter (· != sessionId) } }
  | .other => some s

/-! ## The flag -/

/-- The mode of the last join that was decided. -/
def lastTeach (decided : List Decided) : Bool := decided.head?.any (·.teach)

/-- The mode of the last join that let the caller in. -/
def lastAccepted (decided : List Decided) : Bool := (decided.find? (·.accepted)).any (·.teach)

/-- The mode of the last join of one session that let the caller in. -/
def lastTeachOf (sessionId : SessionId) (decided : List Decided) : Bool :=
  (decided.find? fun d => d.sessionId = sessionId ∧ d.accepted = true).any (·.teach)

/-- The join that a step decides, if it is one that does. -/
def decides (s : State) : Event → Option Decided
  | .resume i reply =>
    match s.tasks.get i with
    | some (.finding sessionId teach) =>
      (reply.opened sessionId).map fun session => ⟨session.id, teach, accepts s.sock.user session reply.enrolled⟩
    | _ => none
  | _ => none

/-- The socket of an organization's admin; a recorder's token is a camera, whoever it names. -/
structure Admin (user : JwtPayload) : Prop where
  role : user.role = .orgAdmin
  recorder : user.recorder = none

theorem setTeaching_admin {k : Sock} (h : Admin k.user) (sessionId : SessionId) (teach : Bool) :
    k.setTeaching sessionId teach = { k with teaching := teach } := by
  unfold Sock.setTeaching isTeaching isRecorder
  rw [h.role, h.recorder]
  cases k.nsp <;> simp

theorem decide_spec {s : State} (h : Admin s.sock.user) (i : Nat) (teach : Bool) (session : LiveSession)
    (enrolled : Bool) :
    (s.decide i teach session enrolled).sock.nsp = s.sock.nsp ∧
      (s.decide i teach session enrolled).sock.user = s.sock.user ∧
      (s.decide i teach session enrolled).sock.teaching = teach ∧
      (s.decide i teach session enrolled).decided =
        ⟨session.id, teach, accepts s.sock.user session enrolled⟩ :: s.decided := by
  simp only [State.decide, setTeaching_admin h, and_true]
  split
  · exact ⟨rfl, rfl, rfl⟩
  · exact ⟨rfl, rfl, rfl⟩

/-- What a step does to the flag and to the decisions: what the join does that it decides. -/
theorem step_spec {s s' : State} {ev : Event} (hadmin : Admin s.sock.user) (h : step s ev = some s') :
    s'.sock.nsp = s.sock.nsp ∧ s'.sock.user = s.sock.user ∧
      s'.sock.teaching = ((decides s ev).map (·.teach)).getD s.sock.teaching ∧
      s'.decided = (decides s ev).toList ++ s.decided := by
  cases ev with
  | join i sessionId teach =>
    unfold step at h
    dsimp only at h
    split at h
    · cases h
    · cases h
      exact ⟨rfl, rfl, rfl, rfl⟩
  | resume i reply =>
    obtain ⟨task, htask, rfl⟩ := Option.map_eq_some_iff.1 h
    cases task with
    | auth sessionId teach =>
      simp only [decides, htask, State.resume]
      split
      · exact ⟨rfl, rfl, rfl, rfl⟩
      · exact ⟨rfl, rfl, rfl, rfl⟩
    | finding sessionId teach =>
      simp only [decides, htask, State.resume]
      cases reply.opened sessionId with
      | none => exact ⟨rfl, rfl, rfl, rfl⟩
      | some session => exact decide_spec hadmin i teach session reply.enrolled
    | retaining sessionId =>
      simp only [decides, htask]
      exact ⟨rfl, rfl, rfl, rfl⟩
  | leave sessionId =>
    cases h
    exact ⟨rfl, rfl, rfl, rfl⟩
  | other =>
    cases h
    exact ⟨rfl, rfl, rfl, rfl⟩

structure Inv (nsp : Nsp) (user : JwtPayload) (s : State) : Prop where
  nsp : s.sock.nsp = nsp
  user : s.sock.user = user
  teaching : s.sock.teaching = lastTeach s.decided

theorem step_inv {nsp : Nsp} {user : JwtPayload} (hadmin : Admin user) {s s' : State} {ev : Event}
    (hs : Inv nsp user s) (h : step s ev = some s') : Inv nsp user s' := by
  obtain ⟨hnsp, huser, hteaching, hdecided⟩ := step_spec (hs.user ▸ hadmin) h
  refine ⟨hnsp.trans hs.nsp, huser.trans hs.user, ?_⟩
  rw [hteaching, hdecided]
  cases decides s ev with
  | none => exact hs.teaching
  | some d => rfl

theorem run_inv {nsp : Nsp} {user : JwtPayload} (hadmin : Admin user) {es : List Event} {s : State}
    (hrun : run step (fresh nsp user) es = some s) : Inv nsp user s :=
  run_keeps (fun _ _ _ => step_inv hadmin) ⟨rfl, rfl, rfl⟩ hrun

/-! ## One mode for a socket -/

/-- The sessions a socket may act in: in the room those of its organization, on the board those it is in. -/
def Sock.Reaches (k : Sock) (session : LiveSession) : Prop :=
  match k.nsp with
  | .root => session.course.organizationId = k.user.organizationId
  | .board => session.id ∈ k.sessionIds

theorem hosts_iff {k : Sock} (h : Admin k.user) (session : LiveSession) :
    k.hosts session = true ↔ k.teaching = true ∧ k.Reaches session := by
  obtain ⟨nsp, user, teaching, sessionIds⟩ := k
  have hrole : user.role = .orgAdmin := h.role
  have hinstructor : (user.role == .instructor) = false := by rw [hrole]; rfl
  cases nsp with
  | root =>
    simp only [Sock.hosts, Sock.Reaches, mayHost, ownedSession, hrole, beq_self_eq_true, Bool.true_and,
      Bool.and_eq_true, Option.filter_some]
    refine and_congr_right fun _ => ?_
    by_cases horg : session.course.organizationId = user.organizationId
    · simp [horg]
    · simp [horg]
  | board =>
    simp only [Sock.hosts, Sock.Reaches, canPresent, hinstructor, Bool.false_or, Bool.and_eq_true,
      List.contains_iff_mem]
    exact and_comm

theorem actingRole_iff {user : JwtPayload} (h : Admin user) (teaching : Bool) :
    actingRole user teaching = .instructor ↔ teaching = true := by
  unfold actingRole
  cases teaching with
  | true => simp
  | false => simp [h.role]

/-- A socket is in the mode of the last join that let it in, as long as no join was refused after that: it acts as
the host of every session it reaches, or of none. -/
theorem mode_of_socket {nsp : Nsp} {user : JwtPayload} {es : List Event} {s : State} (hadmin : Admin user)
    (hrun : run step (fresh nsp user) es = some s) (hlast : ∀ d ∈ s.decided.head?, d.accepted = true) :
    (actingRole s.sock.user s.sock.teaching = .instructor ↔ lastAccepted s.decided = true) ∧
      ∀ session, s.sock.hosts session = true ↔ lastAccepted s.decided = true ∧ s.sock.Reaches session := by
  have hs := run_inv hadmin hrun
  have huser : Admin s.sock.user := hs.user ▸ hadmin
  have hmode : s.sock.teaching = lastAccepted s.decided := by
    rw [hs.teaching]
    unfold lastTeach lastAccepted
    cases hdecided : s.decided with
    | nil => rfl
    | cons d rest =>
      have haccepted := hlast d (by rw [hdecided]; rfl)
      rw [List.find?_cons_of_pos haccepted]
      rfl
  rw [← hmode]
  exact ⟨actingRole_iff huser s.sock.teaching, hosts_iff huser⟩

namespace Example

def amina : JwtPayload := ⟨"amina", .orgAdmin, "Amina", some "acme", none, none⟩

def session (id : SessionId) : LiveSession := ⟨id, .live, "tajweed-1", some "zayd", some "acme", none⟩

def reply (id : SessionId) : Reply := ⟨true, some (session id), false⟩

/-- The messages of one join, with the answers it waits for. -/
def join (i : Nat) (id : SessionId) (teach : Bool) : List Event :=
  [.join i id teach, .resume i (reply id), .resume i (reply id)]

/-- In the room she observes one class and then teaches another. -/
def roomJoins : List Event := join 0 "monday" false ++ join 1 "friday" true

/-- On the board the first join has loaded its document before the second begins. -/
def boardJoins : List Event := join 0 "monday" false ++ [.resume 0 (reply "monday")] ++ join 1 "friday" true

theorem admin_amina : Admin amina := ⟨rfl, rfl⟩

end Example

open Example in
theorem class_hosted : ∃ s, run step (fresh .root amina) (join 0 "monday" true ++ [.other]) = some s ∧
    s.sock.hosts (session "monday") = true := by
  have hrun : (run step (fresh .root amina) (join 0 "monday" true ++ [.other])).map (fun s => s.decided) =
      some [⟨"monday", true, true⟩] := by decide
  obtain ⟨s, hs, hdecided⟩ := Option.map_eq_some_iff.1 hrun
  have hmode := mode_of_socket admin_amina hs (by rw [hdecided]; rintro d ⟨⟩; rfl)
  have hinv := run_inv admin_amina hs
  refine ⟨s, hs, (hmode.2 _).2 ⟨by rw [hdecided]; rfl, ?_⟩⟩
  unfold Sock.Reaches
  rw [hinv.nsp, hinv.user]
  rfl

open Example in
/-- A class she observes becomes one she hosts when she joins another one to teach, in the room and on the board. -/
theorem observed_class_hosted :
    (∃ s, run step (fresh .root amina) roomJoins = some s ∧ lastTeachOf "monday" s.decided = false ∧
      s.sock.hosts (session "monday") = true ∧ actingRole s.sock.user s.sock.teaching = .instructor) ∧
    ∃ s, run step (fresh .board amina) boardJoins = some s ∧ lastTeachOf "monday" s.decided = false ∧
      s.sock.hosts (session "monday") = true := by
  have hroom : (run step (fresh .root amina) roomJoins).map
      (fun s => (lastTeachOf "monday" s.decided, s.sock.hosts (session "monday"),
        actingRole s.sock.user s.sock.teaching)) = some (false, true, .instructor) := by decide
  have hboard : (run step (fresh .board amina) boardJoins).map
      (fun s => (lastTeachOf "monday" s.decided, s.sock.hosts (session "monday"))) = some (false, true) := by
    decide
  obtain ⟨s, hs, hseen⟩ := Option.map_eq_some_iff.1 hroom
  obtain ⟨t, ht, hseen'⟩ := Option.map_eq_some_iff.1 hboard
  simp only [Prod.mk.injEq] at hseen hseen'
  exact ⟨⟨s, hs, hseen⟩, t, ht, hseen'⟩

/-! ## One class -/

end Livetich.Room.TeachMode
