/-
Who is in a room: `onJoin`, `onLeave` and `handleDisconnect` of the room gateway as tasks that run
from one awaited answer to the next, over the sockets and the presence hashes of all sessions.

`client.join` and `client.leave` act at once on the process's own adapter, so what follows them
runs in the same step, as does what follows any answer up to the next call. After `addPresence`
the rest of `onJoin` reads and emits room state only, and is left out. What the database and the
account gate answer is part of the event that carries the answer.
-/
import Livetich.Model
import Livetich.Lib.TransSys

namespace Livetich.Room.Membership

open TransSys

/-! ## Data -/

/-- A socket past `authenticate`'s token check: its `SocketData` and the rooms it is in. -/
structure Sock where
  user : JwtPayload
  connected : Bool
  teaching : Bool
  shadow : Bool
  /-- `sessionIds` in the order the set is iterated, each with a number of its own. -/
  sessionIds : List (Nat × SessionId)
  /-- The session rooms joined. -/
  rooms : List SessionId
  /-- The staff sub-rooms joined. -/
  staffRooms : List SessionId
  /-- The sessions joined visibly since the socket last left them; no handler reads this. -/
  visible : List SessionId
  deriving DecidableEq

def Sock.new (user : JwtPayload) : Sock := ⟨user, true, false, false, [], [], [], []⟩

/-- A handler in flight, by the call it waits for. -/
inductive Task
  /-- `onJoin` waits for `authReady`. -/
  | joinAuth (c : Nat) (sessionId : SessionId) (teach : Bool)
  | joinSession (c : Nat) (sessionId : SessionId) (teach : Bool)
  | joinEnrolled (c : Nat) (sessionId : SessionId)
  | joinPresence (c : Nat) (sessionId : SessionId) (user : RoomUser)
  /-- `onLeave` waits for `fetchSockets`; `visible`: the socket had joined visibly. -/
  | leaveFetch (c : Nat) (userId : UserId) (sessionId : SessionId) (visible : Bool)
  | leaveRemove (c : Nat) (userId : UserId) (sessionId : SessionId) (visible : Bool)
  /-- `handleDisconnect` waits for `fetchSockets`. The loop goes on at `cursor`; of the sessions
  the socket had joined visibly, `owed` are not yet dealt with. -/
  | dropFetch (c : Nat) (userId : UserId) (cursor : Nat) (sessionId : SessionId) (owed : List SessionId)
  | dropRemove (c : Nat) (userId : UserId) (cursor : Nat) (sessionId : SessionId) (owed : List SessionId)
  /-- The rest of the loop's body, up to the next session. -/
  | dropNext (c : Nat) (userId : UserId) (cursor : Nat) (owed : List SessionId)
  deriving DecidableEq

structure State where
  sockets : Pool Sock
  /-- The entries of the `room:<id>:presence` hashes. -/
  presence : List (SessionId × RoomUser)
  nextNumber : Nat
  tasks : Pool Task

def init : State := ⟨Pool.empty, [], 0, Pool.empty⟩

/-! ## Pieces of the handlers -/

namespace State

/-- Task `i` goes on as `t`, or ends. -/
def goto (s : State) (i : Nat) (t : Option Task) : State := { s with tasks := s.tasks.put i t }

def setSock (s : State) (c : Nat) (k : Sock) : State := { s with sockets := s.sockets.put c (some k) }

/-- `hset` of `addPresence`. -/
def addPresence (s : State) (sessionId : SessionId) (user : RoomUser) : State :=
  { s with presence :=
      s.presence.filter (fun p => !(p.1 == sessionId && p.2.userId == user.userId)) ++ [(sessionId, user)] }

/-- `hdel` of `removePresence`. -/
def removePresence (s : State) (sessionId : SessionId) (userId : UserId) : State :=
  { s with presence := s.presence.filter fun p => !(p.1 == sessionId && p.2.userId == userId) }

/-- `userStillInRoom`. -/
def userStillInRoom (s : State) (sessionId : SessionId) (userId : UserId) (except : Nat) : Bool :=
  s.sockets.entries.any fun p =>
    p.1 != except && p.2.connected && p.2.rooms.contains sessionId && p.2.user.sub == userId

end State

/-- What `onJoin` decides of a session row before it asks for the enrolment: whether the join is
hidden, and whether it is refused, allowed or up to the enrolment. -/
inductive Verdict
  | refuse
  | enter
  | ifEnrolled
  deriving DecidableEq

def isRecorder (user : JwtPayload) (sessionId : SessionId) : Bool :=
  user.recorder.any (·.sessionId == sessionId)

def isTeaching (user : JwtPayload) (teach : Bool) : Bool := user.role == .orgAdmin && teach

def isShadow (user : JwtPayload) (sessionId : SessionId) (teach : Bool) : Bool :=
  (user.role == .orgAdmin && !isTeaching user teach) || isRecorder user sessionId

def verdict (user : JwtPayload) (sessionId : SessionId) (session : LiveSession) : Verdict :=
  if user.recorder.isSome && !isRecorder user sessionId then .refuse
  else if isRecorder user sessionId then .enter
  else match user.role with
    | .instructor => if session.course.instructorId == some user.sub then .enter else .refuse
    | .orgAdmin =>
      if session.course.organizationId == user.organizationId then .enter else .refuse
    | .student => .ifEnrolled

/-- The socket after `client.join` and `sessionIds.add`. -/
def Sock.enter (k : Sock) (number : Nat) (sessionId : SessionId) (shadow : Bool) : Sock :=
  { k with
    rooms := k.rooms.filter (· != sessionId) ++ [sessionId]
    staffRooms := if k.user.role = .student then k.staffRooms
      else k.staffRooms.filter (· != sessionId) ++ [sessionId]
    sessionIds := if k.sessionIds.any (·.2 == sessionId) then k.sessionIds
      else k.sessionIds ++ [(number, sessionId)]
    visible := if shadow then k.visible else sessionId :: k.visible }

def staffRoom (sessionId : SessionId) : String := sessionId ++ "::staff"

/-- The socket after `client.leave` and `sessionIds.delete`. The name is the message's own, and may
be that of a staff sub-room. -/
def Sock.leave (k : Sock) (sessionId : SessionId) : Sock :=
  { k with
    rooms := k.rooms.filter (· != sessionId)
    staffRooms := k.staffRooms.filter (staffRoom · != sessionId)
    sessionIds := k.sessionIds.filter (·.2 != sessionId)
    visible := k.visible.filter (· != sessionId) }

/-- The socket once its connection is gone. -/
def Sock.drop (k : Sock) : Sock :=
  { k with connected := false, rooms := [], staffRooms := [], visible := [] }

/-- `onJoin` from `client.join` to its next call. -/
def enter (s : State) (i c : Nat) (k : Sock) (sessionId : SessionId) (shadow : Bool) : State :=
  { s.setSock c (k.enter s.nextNumber sessionId shadow) with nextNumber := s.nextNumber + 1 }.goto i
    (if shadow then none else some (.joinPresence c sessionId (roomUser k.user k.teaching)))

/-- What `handleDisconnect` waits for next when its loop goes on at `cursor`. -/
def dropLoop (c : Nat) (k : Sock) (cursor : Nat) (owed : List SessionId) : Option Task :=
  match k.sessionIds.find? fun p => decide (cursor ≤ p.1) with
  | some (number, sessionId) =>
    -- a set flag skips this session and, with nothing awaited, every one after it
    if k.shadow then none else some (.dropFetch c k.user.sub (number + 1) sessionId owed)
  | none => none

/-! ## Steps -/

inductive Event
  | connect (c : Nat) (user : JwtPayload)
  /-- A `room:join` message; its handler is task `i`. -/
  | join (i c : Nat) (sessionId : SessionId) (teach : Bool)
  /-- A `room:leave` message; its handler is task `i`. -/
  | leave (i c : Nat) (sessionId : SessionId)
  /-- The connection is lost or closed; `handleDisconnect` is task `i`. -/
  | disconnect (i c : Nat)
  /-- `authReady` answers task `i`. -/
  | authReady (i : Nat) (permitted : Bool)
  /-- `liveSession.findUnique` answers task `i`. -/
  | session (i : Nat) (row : Option LiveSession)
  /-- `enrollment.findUnique` answers task `i`. -/
  | enrolled (i : Nat) (found : Bool)
  /-- The room-state call task `i` waits for takes effect, and the task goes on. -/
  | resume (i : Nat)
  deriving DecidableEq

def join (s : State) (i c : Nat) (sessionId : SessionId) (teach : Bool) : State :=
  s.goto i (some (.joinAuth c sessionId teach))

/-- `onLeave` up to its first answer; a recorder's message is dropped before it. -/
def leave (s : State) (i c : Nat) (k : Sock) (sessionId : SessionId) : State :=
  if k.user.recorder.isSome then s
  else
    let visible := k.visible.contains sessionId
    let k := k.leave sessionId
    (s.setSock c k).goto i
      (if k.shadow then none else some (.leaveFetch c k.user.sub sessionId visible))

def disconnect (s : State) (i c : Nat) (k : Sock) : State :=
  (s.setSock c k.drop).goto i (dropLoop c k.drop 0 k.visible)

/-- `onJoin` once the session row is read. -/
def onSession (s : State) (i c : Nat) (k : Sock) (sessionId : SessionId) (teach : Bool)
    (row : Option LiveSession) : State :=
  match row with
  | none => s.goto i none
  | some session =>
    if session.status = .ended then s.goto i none
    else
      let shadow := isShadow k.user sessionId teach
      let k := { k with teaching := isTeaching k.user teach, shadow := shadow }
      match verdict k.user sessionId session with
      | .refuse => (s.setSock c k).goto i none
      | .enter => enter s i c k sessionId shadow
      | .ifEnrolled => (s.setSock c k).goto i (some (.joinEnrolled c sessionId))

/-- The next step of task `t`, numbered `i`, of socket `k`. -/
def resume (s : State) (i : Nat) (k : Sock) : Task → Option State
  | .joinPresence _ sessionId user => some ((s.addPresence sessionId user).goto i none)
  | .leaveFetch c userId sessionId visible =>
    some (s.goto i (if s.userStillInRoom sessionId userId c then none
      else some (.leaveRemove c userId sessionId visible)))
  | .leaveRemove _ userId sessionId _ => some ((s.removePresence sessionId userId).goto i none)
  | .dropFetch c userId cursor sessionId owed =>
    some (s.goto i (if s.userStillInRoom sessionId userId c then
        dropLoop c k cursor (owed.filter (· != sessionId))
      else some (.dropRemove c userId cursor sessionId owed)))
  | .dropRemove c userId cursor sessionId owed =>
    some ((s.removePresence sessionId userId).goto i
      (some (.dropNext c userId cursor (owed.filter (· != sessionId)))))
  | .dropNext c _ cursor owed => some (s.goto i (dropLoop c k cursor owed))
  | _ => none

def Task.socket : Task → Nat
  | .joinAuth c .. | .joinSession c .. | .joinEnrolled c _ | .joinPresence c .. | .leaveFetch c ..
  | .leaveRemove c .. | .dropFetch c .. | .dropRemove c .. | .dropNext c .. => c

def step (s : State) : Event → Option State
  | .connect c user =>
    if s.sockets.get c = none ∧ user.preview = none then some (s.setSock c (Sock.new user)) else none
  | .join i c sessionId teach =>
    if s.tasks.get i = none ∧ ((s.sockets.get c).any (·.connected)) = true then
      some (join s i c sessionId teach) else none
  | .leave i c sessionId =>
    if s.tasks.get i = none then
      ((s.sockets.get c).filter (·.connected)).map fun k => leave s i c k sessionId
    else none
  | .disconnect i c =>
    if s.tasks.get i = none then
      ((s.sockets.get c).filter (·.connected)).map fun k => disconnect s i c k
    else none
  | .authReady i permitted => match s.tasks.get i with
    | some (.joinAuth c sessionId teach) =>
      some (s.goto i (if permitted then some (.joinSession c sessionId teach) else none))
    | _ => none
  | .session i row => match s.tasks.get i with
    | some (.joinSession c sessionId teach) =>
      (s.sockets.get c).map fun k => onSession s i c k sessionId teach row
    | _ => none
  | .enrolled i found => match s.tasks.get i with
    | some (.joinEnrolled c sessionId) =>
      (s.sockets.get c).map fun k => if found then enter s i c k sessionId false else s.goto i none
    | _ => none
  | .resume i => (s.tasks.get i).bind fun t => (s.sockets.get t.socket).bind fun k => resume s i k t

end Livetich.Room.Membership
