/-
Leaving a program: `CoursesService.unenroll` and `RoomBroadcaster.evictUserFromSession`, over the sockets of the
root, `/board` and `/code` namespaces, whose handlers run beside them from one awaited call to the next.

An enrolment is read once, when a socket joins a session; from then on a handler asks only what the socket has
joined. `client.join` and `client.leave` act at once on the process's own adapter, so the sets the gateways keep of
a socket's sessions and its socket.io rooms change together, and are one list here. `socket.disconnect(true)` closes
the connection the socket came by, with every socket on it.
-/
import Livetich.Code.Gateway
import Livetich.Room.Membership

namespace Livetich.Unenroll

open TransSys
open Room.Membership (Verdict isTeaching isRecorder)
open Code (CodePermissionPayload)
open Sockets (isEnabledForCourse pluginCodeInstruction)

/-! ## Sockets -/

/-- The namespaces a session is joined in. -/
inductive Nsp
  | root
  | board
  | code
  deriving DecidableEq

structure Sock where
  nsp : Nsp
  /-- The connection the socket came by; the namespaces of one client may share it. -/
  connection : Nat
  user : JwtPayload
  connected : Bool
  teaching : Bool
  /-- `rooms` of a root socket, `sessionIds` of the others. -/
  sessionIds : List SessionId
  controlledSessionIds : List SessionId
  deriving DecidableEq

def Sock.new (nsp : Nsp) (connection : Nat) (user : JwtPayload) : Sock :=
  ⟨nsp, connection, user, true, false, [], []⟩

def Sock.enter (k : Sock) (sessionId : SessionId) (controls : Bool) : Sock :=
  { k with
    sessionIds := k.sessionIds.filter (· != sessionId) ++ [sessionId]
    controlledSessionIds := if controls then k.controlledSessionIds ++ [sessionId] else k.controlledSessionIds }

def Sock.leave (k : Sock) (sessionId : SessionId) : Sock :=
  { k with
    sessionIds := k.sessionIds.filter (· != sessionId)
    controlledSessionIds := k.controlledSessionIds.filter (· != sessionId) }

/-- The connection is closed under the socket, or the socket left it. -/
def Sock.drop (k : Sock) : Sock := { k with connected := false }

/-! ## State -/

/-- A handler in flight, by the call it waits for. -/
inductive Task
  /-- `onJoin` waits for `authReady`. -/
  | joinAuth (c : Nat) (sessionId : SessionId) (teach : Bool)
  | joinSession (c : Nat) (sessionId : SessionId) (teach : Bool)
  /-- `/code`: for `isEnabledForCourse`. -/
  | joinPlugin (c : Nat) (session : LiveSession)
  | joinEnrolled (c : Nat) (session : LiveSession)
  /-- `/board` and `/code`: for `docs.retain`. -/
  | joinRetain (c : Nat) (sessionId : SessionId) (controls : Bool)
  /-- `onChat` waits for `isChatLocked`. -/
  | chatLocked (userId : UserId) (sessionId : SessionId)
  | chatCreate (userId : UserId) (sessionId : SessionId)
  /-- `unenroll`. -/
  | deleteEnrollment (studentId : UserId) (courseId : CourseId)
  | findSessions (studentId : UserId) (courseId : CourseId)
  /-- `evictUserFromSession` waits for `fetchSockets` of a session, the loop past `done` and before `rest`. -/
  | evict (studentId : UserId) (courseId : CourseId) (done : List SessionId) (sessionId : SessionId)
    (rest : List SessionId)
  deriving DecidableEq

/-- What else decides whether a message is let in; the host of a session sets it. -/
structure Gates where
  /-- `BoardGateway.writable`. -/
  writable : List SessionId
  /-- The permissions of the code documents. -/
  permissions : List CodePermissionPayload
  chatLocked : List SessionId
  /-- The organizations that have Code Instruction enabled. -/
  orgPlugins : List OrganizationId

/-- An update or chat message let in. -/
structure Post where
  nsp : Nsp
  sessionId : SessionId
  userId : UserId
  deriving DecidableEq

structure State where
  sockets : Pool Sock
  enrollments : List (CourseId × UserId)
  sessions : List LiveSession
  gates : Gates
  posts : List Post
  tasks : Pool Task

def init : State := ⟨Pool.empty, [], [], ⟨[], [], [], []⟩, [], Pool.empty⟩

namespace State

/-- Task `i` goes on as `t`, or ends. -/
def goto (s : State) (i : Nat) (t : Option Task) : State := { s with tasks := s.tasks.put i t }

def setSock (s : State) (c : Nat) (k : Sock) : State := { s with sockets := s.sockets.put c (some k) }

def session (s : State) (sessionId : SessionId) : Option LiveSession := s.sessions.find? (·.id == sessionId)

def enrolled (s : State) (courseId : CourseId) (studentId : UserId) : Bool :=
  s.enrollments.contains (courseId, studentId)

end State

/-! ## Messages -/

/-- A message to a session, with what its handler tests of it. -/
inductive Message
  | boardUpdate (size : Nat)
  /-- `valid`: the document takes the update. -/
  | codeUpdate (size : Nat) (valid : Bool)
  /-- The length of the trimmed body. -/
  | chat (length : Nat)
  /-- `minted`: the URL is one this service hands out. -/
  | voice (minted : Bool)
  deriving DecidableEq

def maxCodeUpdateBytes : Nat := 2 * 1024 * 1024

/-- `BoardGateway.canPresent`. -/
def canPresent (k : Sock) : Bool := k.user.role == .instructor || k.teaching

/-- `CodeDocService.canWrite`. -/
def canWrite (gates : Gates) (sessionId : SessionId) (user : JwtPayload) : Bool :=
  match gates.permissions.find? (·.sessionId == sessionId) with
  | some perm => perm.mode == .open_ || (perm.mode == .delegated && perm.delegatedUserIds.any (·.contains user.sub))
  | none => false

/-- The tests `onUpdate`, `onChat` and `onChatVoice` make before they wait for anything. -/
def admits (gates : Gates) (k : Sock) (sessionId : SessionId) : Message → Bool
  | .boardUpdate size => k.nsp == .board && k.sessionIds.contains sessionId &&
    (canPresent k || gates.writable.contains sessionId) && 0 < size
  | .codeUpdate size valid => k.nsp == .code && k.sessionIds.contains sessionId &&
    (k.controlledSessionIds.contains sessionId || canWrite gates sessionId k.user) &&
    0 < size && size ≤ maxCodeUpdateBytes && valid
  | .chat length => k.nsp == .root && k.sessionIds.contains sessionId && 0 < length && length ≤ 2000
  | .voice minted => k.nsp == .root && k.sessionIds.contains sessionId && minted

def State.post (s : State) (nsp : Nsp) (sessionId : SessionId) (userId : UserId) : State :=
  { s with posts := s.posts ++ [⟨nsp, sessionId, userId⟩] }

/-- An update is relayed at once; a chat message is a handler of its own. -/
def accept (s : State) (i : Nat) (k : Sock) (sessionId : SessionId) : Message → State
  | .boardUpdate _ => s.post .board sessionId k.user.sub
  | .codeUpdate .. => s.post .code sessionId k.user.sub
  | .chat _ | .voice _ =>
    let call := if actingRole k.user k.teaching = .instructor then Task.chatCreate else Task.chatLocked
    s.goto i (some (call k.user.sub sessionId))

/-- The filter of a recorder token, where a namespace has one, drops everything but the join. -/
def heard (k : Sock) : Bool := k.connected && (k.user.recorder.isNone || k.nsp == .code)

/-! ## Joining -/

/-- What `onJoin` of a namespace decides of a session row before it asks for the enrolment. -/
def verdict (nsp : Nsp) (user : JwtPayload) (session : LiveSession) : Verdict :=
  match nsp with
  | .root | .board => Room.Membership.verdict user session.id session
  | .code => match user.role with
    | .orgAdmin => if session.course.organizationId == user.organizationId then .enter else .refuse
    | .instructor =>
      if session.course.instructorId == some user.sub || session.course.organizationId == user.organizationId then
        .enter
      else .refuse
    | .student => .ifEnrolled

/-- What `onJoin` sets of `client.data.teaching`; `/code` keeps no such flag, and on the board a recorder of
another session is turned away before. -/
def Sock.setTeaching (k : Sock) (sessionId : SessionId) (teach : Bool) : Sock :=
  match k.nsp with
  | .root => { k with teaching := isTeaching k.user teach }
  | .board =>
    if k.user.recorder.isSome && !isRecorder k.user sessionId then k
    else { k with teaching := !isRecorder k.user sessionId && isTeaching k.user teach }
  | .code => k

def controls (nsp : Nsp) (user : JwtPayload) (session : LiveSession) : Bool :=
  nsp == .code && (session.course.instructorId == some user.sub || user.role == .orgAdmin)

/-- The join is allowed: a root socket is in, the others wait for the document. -/
def admitted (s : State) (i c : Nat) (k : Sock) (session : LiveSession) : State :=
  if k.nsp = .root then (s.setSock c (k.enter session.id false)).goto i none
  else s.goto i (some (.joinRetain c session.id (controls k.nsp k.user session)))

def decideJoin (s : State) (i c : Nat) (k : Sock) (session : LiveSession) : State :=
  match verdict k.nsp k.user session with
  | .refuse => s.goto i none
  | .enter => admitted s i c k session
  | .ifEnrolled => s.goto i (some (.joinEnrolled c session))

/-- `onJoin` once the session row is read. -/
def onSession (s : State) (i c : Nat) (k : Sock) (teach : Bool) (session : LiveSession) : State :=
  if session.status = .ended then s.goto i none
  else if k.nsp = .code then s.goto i (some (.joinPlugin c session))
  else
    let k := k.setTeaching session.id teach
    decideJoin (s.setSock c k) i c k session

/-! ## Eviction -/

/-- The sockets `evictUserFromSession` finds, by their connections: those of the root namespace. -/
def found (s : State) (sessionId : SessionId) (userId : UserId) : List Nat :=
  (s.sockets.entries.filter fun p => p.2.nsp == .root && p.2.connected && p.2.sessionIds.contains sessionId &&
    p.2.user.sub == userId).map (·.2.connection)

/-- `disconnect(true)` on what was found. -/
def State.close (s : State) (connections : List Nat) : State :=
  { s with sockets := s.sockets.map fun k => if k.connection ∈ connections then k.drop else k }

/-- The loop over `activeSessions` goes on. -/
def evictNext (studentId : UserId) (courseId : CourseId) (done : List SessionId) : List SessionId → Option Task
  | [] => none
  | sessionId :: rest => some (.evict studentId courseId done sessionId rest)

def isActive (session : LiveSession) : Bool := session.status == .live || session.status == .scheduled

/-- The next step of task `t`, numbered `i`. -/
def resume (s : State) (i : Nat) : Task → State
  | .joinAuth c sessionId teach => match s.sockets.get c with
    | some k =>
      -- `/board` replays its state to a socket that joins again, `/code` does nothing
      if k.nsp ≠ .root ∧ sessionId ∈ k.sessionIds then s.goto i none
      else s.goto i (some (.joinSession c sessionId teach))
    | none => s.goto i none
  | .joinSession c sessionId teach => match s.sockets.get c, s.session sessionId with
    | some k, some session => onSession s i c k teach session
    | _, _ => s.goto i none
  | .joinPlugin c session => match s.sockets.get c with
    | some k =>
      if isEnabledForCourse session.course pluginCodeInstruction
          (session.course.organizationId.any s.gates.orgPlugins.contains) then decideJoin s i c k session
      else s.goto i none
    | none => s.goto i none
  | .joinEnrolled c session => match s.sockets.get c with
    | some k => if s.enrolled session.course.id k.user.sub then admitted s i c k session else s.goto i none
    | none => s.goto i none
  | .joinRetain c sessionId controls => match s.sockets.get c with
    | some k => (s.setSock c (k.enter sessionId controls)).goto i none
    | none => s.goto i none
  | .chatLocked userId sessionId =>
    s.goto i (if sessionId ∈ s.gates.chatLocked then none else some (.chatCreate userId sessionId))
  | .chatCreate userId sessionId => (s.post .root sessionId userId).goto i none
  | .deleteEnrollment studentId courseId =>
    if s.enrolled courseId studentId then
      { s with enrollments := s.enrollments.filter (· != (courseId, studentId)) }.goto i
        (some (.findSessions studentId courseId))
    else s.goto i none
  | .findSessions studentId courseId =>
    s.goto i (evictNext studentId courseId []
      ((s.sessions.filter fun x => x.course.id == courseId && isActive x).map (·.id)))
  | .evict studentId courseId done sessionId rest =>
    (s.close (found s sessionId studentId)).goto i (evictNext studentId courseId (sessionId :: done) rest)

/-- The call task `i` waits for is rejected. The task ends, but for an eviction, which swallows it. -/
def reject (s : State) (i : Nat) : Task → State
  | .evict studentId courseId done sessionId rest =>
    s.goto i (evictNext studentId courseId (sessionId :: done) rest)
  | _ => s.goto i none

/-! ## Steps -/

inductive Event
  | connect (c : Nat) (nsp : Nsp) (connection : Nat) (user : JwtPayload)
  | join (i c : Nat) (sessionId : SessionId) (teach : Bool)
  | leave (c : Nat) (sessionId : SessionId)
  | message (i c : Nat) (sessionId : SessionId) (m : Message)
  | disconnect (c : Nat)
  /-- A student is enrolled, by any of the routes that do so. -/
  | enroll (studentId : UserId) (courseId : CourseId)
  | unenroll (i : Nat) (studentId : UserId) (courseId : CourseId)
  /-- A session is created or changed. -/
  | session (row : LiveSession)
  | gates (gates : Gates)
  | resume (i : Nat)
  | reject (i : Nat)

/-- `courseOf`: the course a session is of, which no update changes. -/
def step (courseOf : SessionId → CourseId) (s : State) : Event → Option State
  | .connect c nsp connection user =>
    if s.sockets.get c = none ∧ user.preview = none then some (s.setSock c (Sock.new nsp connection user)) else none
  | .join i c sessionId teach =>
    if s.tasks.get i = none then
      ((s.sockets.get c).filter (·.connected)).map fun _ => s.goto i (some (.joinAuth c sessionId teach))
    else none
  | .leave c sessionId => ((s.sockets.get c).filter heard).map fun k => s.setSock c (k.leave sessionId)
  | .message i c sessionId m =>
    if s.tasks.get i = none then
      ((s.sockets.get c).filter heard).map fun k =>
        if admits s.gates k sessionId m then accept s i k sessionId m else s
    else none
  | .disconnect c => ((s.sockets.get c).filter (·.connected)).map fun k => s.setSock c k.drop
  | .enroll studentId courseId =>
    if s.enrolled courseId studentId then none
    else some { s with enrollments := (courseId, studentId) :: s.enrollments }
  | .unenroll i studentId courseId =>
    if s.tasks.get i = none then some (s.goto i (some (.deleteEnrollment studentId courseId))) else none
  | .session row =>
    if row.course.id = courseOf row.id then
      some { s with sessions := row :: s.sessions.filter (·.id != row.id) }
    else none
  | .gates gates => some { s with gates }
  | .resume i => (s.tasks.get i).map (resume s i)
  | .reject i => (s.tasks.get i).map (reject s i)

end Livetich.Unenroll
