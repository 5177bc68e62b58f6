/-
Joining a session with Code Instruction, as the code, terminal and tunnel gateways do it: `onJoin`
waits for the account check, passes over a session already joined, reads the session and the
enrolment, and lets the caller in or not.
-/
import Livetich.Sockets.Parties

namespace Livetich.Sockets

/-! ## The door -/

def pluginCodeInstruction : String := "code-instruction"

/-- `PluginsService.isEnabledForCourse`: a program's own pack list stands in for its
organization's. -/
def isEnabledForCourse (course : CourseRef) (key : String) (orgEnabled : Bool) : Bool :=
  match course.pluginKeys with
  | some keys => keys.contains key
  | none => orgEnabled

/-- What `onJoin` reads of the database. -/
structure JoinReads where
  session : Option LiveSession
  orgEnabled : Bool
  enrolled : Bool

/-- The checks `onJoin` makes of what it reads. -/
def door (user : JwtPayload) (reads : JoinReads) : Except Failure LiveSession :=
  match reads.session with
  | none => .error ⟨"NOT_JOINABLE", "Session not found or ended"⟩
  | some session =>
    if session.status = .ended then .error ⟨"NOT_JOINABLE", "Session not found or ended"⟩
    else if !isEnabledForCourse session.course pluginCodeInstruction reads.orgEnabled then
      .error ⟨"FORBIDDEN", "Code Instruction is not enabled"⟩
    else match user.role with
      | .orgAdmin =>
        if session.course.organizationId ≠ user.organizationId then
          .error ⟨"FORBIDDEN", "Not your organization"⟩
        else .ok session
      | .instructor =>
        if session.course.instructorId ≠ some user.sub ∧
            session.course.organizationId ≠ user.organizationId then
          .error ⟨"FORBIDDEN", "Not your session"⟩
        else .ok session
      | .student => if reads.enrolled then .ok session else .error ⟨"FORBIDDEN", "Not enrolled"⟩

/-- The host roles: `INSTRUCTOR` and `ORG_ADMIN`. -/
def isHostRole (role : Role) : Bool := role == .instructor || role == .orgAdmin

/-! ## Calls of `onJoin` -/

/-- A call of `onJoin`, by what it waits for. -/
inductive Join
  | account (sessionId : SessionId)
  | reads (sessionId : SessionId)
  deriving DecidableEq

/-- A socket's data, with its calls of `onJoin` under way. -/
structure Sock where
  user : JwtPayload
  /-- `none` until the account check has answered. -/
  authReady : Option Bool
  sessionIds : List SessionId
  joining : List Join
  deriving DecidableEq

namespace Sock

def new (user : JwtPayload) : Sock := ⟨user, none, [], []⟩

def settle (k : Sock) (permitted : Bool) : Sock :=
  { k with authReady := k.authReady.or (some permitted) }

def startJoin (k : Sock) (sessionId : SessionId) : Sock :=
  { k with joining := k.joining ++ [.account sessionId] }

def inRoom (k : Sock) (sessionId : SessionId) : Bool := k.sessionIds.contains sessionId

/-- `client.join` and `sessionIds.add`. -/
def enter (k : Sock) (sessionId : SessionId) : Sock :=
  { k with sessionIds := if k.inRoom sessionId then k.sessionIds else k.sessionIds ++ [sessionId] }

/-- `sessionIds.delete` and `client.leave`. -/
def leave (k : Sock) (sessionId : SessionId) : Sock :=
  { k with sessionIds := k.sessionIds.filter (· != sessionId) }

/-- Call `i` of `onJoin` goes on, up to the point where it lets the caller in. -/
def onJoin (k : Sock) (i : Nat) (reads : JoinReads) : Sock × Option (SessionId × LiveSession) :=
  match k.joining[i]? with
  | none => (k, none)
  | some (.account sessionId) => match k.authReady with
    | none => (k, none)
    | some permitted =>
      if permitted && !k.inRoom sessionId then
        ({ k with joining := k.joining.set i (.reads sessionId) }, none)
      else ({ k with joining := k.joining.eraseIdx i }, none)
  | some (.reads sessionId) =>
    let ended := { k with joining := k.joining.eraseIdx i }
    match door k.user reads with
    | .ok session => (ended, some (sessionId, session))
    | .error _ => (ended, none)

/-- Call `answer.1` of `onJoin` goes on, where it ends by letting the caller in. -/
def resume {α : Type} (k : Sock) (shared : α) (answer : Nat × JoinReads) : Sock × α :=
  match k.onJoin answer.1 answer.2 with
  | (k, some (sessionId, _)) => (k.enter sessionId, shared)
  | (k, none) => (k, shared)

@[simp] theorem user_settle (k : Sock) (permitted : Bool) : (k.settle permitted).user = k.user := rfl

@[simp] theorem user_startJoin (k : Sock) (sessionId : SessionId) :
    (k.startJoin sessionId).user = k.user := rfl

@[simp] theorem user_enter (k : Sock) (sessionId : SessionId) : (k.enter sessionId).user = k.user := rfl

@[simp] theorem user_leave (k : Sock) (sessionId : SessionId) : (k.leave sessionId).user = k.user := rfl

@[simp] theorem user_onJoin (k : Sock) (i : Nat) (reads : JoinReads) :
    (k.onJoin i reads).1.user = k.user := by
  unfold onJoin
  split
  · rfl
  · split
    · rfl
    · split <;> rfl
  · dsimp only
    split <;> rfl

@[simp] theorem user_resume {α : Type} (k : Sock) (shared : α)
    (answer : Nat × JoinReads) : (k.resume shared answer).1.user = k.user := by
  rw [← k.user_onJoin answer.1 answer.2]
  unfold resume
  split
  · rename_i hk
    rw [hk]
    rfl
  · rename_i hk
    rw [hk]

@[simp] theorem resume_shared {α : Type} (k : Sock) (shared : α)
    (answer : Nat × JoinReads) : (k.resume shared answer).2 = shared := by
  unfold resume
  split <;> rfl

end Sock

/-! ## Gateways that keep no more of a socket -/

/-- A gateway whose sockets' data is `Sock`: what they share is changed by messages, and by
`cleanupSocket` when a socket goes. -/
@[reducible] def sockParties {Shared Message : Type} (start : Shared) (event : Message → String)
    (receive : SocketId → Nat → Sock → Shared → Message → Except Failure (Sock × Shared))
    (cleanupSocket : Shared → SocketId → Shared) : Parties where
  Sock := Sock
  Shared := Shared
  Message := Message
  Answer := Nat × JoinReads
  Background := Empty
  Shown := Shared
  start := start
  event := event
  enter := Sock.new
  settle := Sock.settle
  receive := receive
  resume _ k shared answer := k.resume shared answer
  disconnect c k shared := (k, cleanupSocket shared c)
  background _ b := b.elim
  shown shared := shared

end Livetich.Sockets
