/-
The terminal gateway: `TerminalService`, which keeps the open terminals of each session with their
host and the tail of their output, and the handlers of `/terminal` over it. Standard input is
relayed to the host and leaves no trace here.
-/
import Livetich.Js.Number
import Livetich.Code.Paths
import Livetich.Lib.Table
import Livetich.Sockets.Join

namespace Livetich.Terminal

open Livetich.Sockets
open Livetich.Code (jsLength)
open Livetich.Js (Number)

abbrev TerminalId := String

/-- Terminal output, in UTF-16 units. -/
abbrev Units := List UInt16

/-! ## The open terminals -/

inductive TerminalWritableMode
  | instructorOnly
  | open_
  | delegated
  deriving DecidableEq

/-- The modes `onPermission` knows. -/
def TerminalWritableMode.ofString : String → Option TerminalWritableMode
  | "INSTRUCTOR_ONLY" => some .instructorOnly
  | "OPEN" => some .open_
  | "DELEGATED" => some .delegated
  | _ => none

structure TerminalSessionInfo where
  terminalId : TerminalId
  name : String
  cols : Number
  rows : Number
  interactive : Bool
  sandboxed : Option Bool
  writableBy : TerminalWritableMode
  delegatedUserIds : Option (List UserId)
  deriving DecidableEq

structure ActiveTerminal where
  info : TerminalSessionInfo
  hostSocketId : SocketId
  hostUserId : UserId
  backlog : Units
  deriving DecidableEq

def maxBacklogBytes : Nat := 64 * 1024

/-- The last units of a backlog. -/
def tail (backlog : Units) : Units := backlog.drop (backlog.length - maxBacklogBytes)

namespace ActiveTerminal

def append (x : ActiveTerminal) (chunk : Units) : ActiveTerminal :=
  { x with backlog := tail (x.backlog ++ chunk) }

def resize (x : ActiveTerminal) (cols rows : Number) : ActiveTerminal :=
  { x with info := { x.info with cols := cols, rows := rows } }

def permit (x : ActiveTerminal) (writableBy : TerminalWritableMode)
    (delegatedUserIds : Option (List UserId)) : ActiveTerminal :=
  { x with info := { x.info with writableBy := writableBy, delegatedUserIds := delegatedUserIds } }

@[simp] theorem append_hostSocketId (x : ActiveTerminal) (chunk : Units) :
    (x.append chunk).hostSocketId = x.hostSocketId := by
  unfold append
  rfl

@[simp] theorem resize_hostSocketId (x : ActiveTerminal) (cols rows : Number) :
    (x.resize cols rows).hostSocketId = x.hostSocketId := rfl

@[simp] theorem permit_hostSocketId (x : ActiveTerminal) (writableBy : TerminalWritableMode)
    (ids : Option (List UserId)) : (x.permit writableBy ids).hostSocketId = x.hostSocketId := rfl

end ActiveTerminal

/-- The `sessions` map of maps. -/
abbrev Sessions := SessionId → TerminalId → Option ActiveTerminal

namespace Sessions

def set (ts : Sessions) (sessionId : SessionId) (terminalId : TerminalId) (x : Option ActiveTerminal) :
    Sessions :=
  Function.update ts sessionId (Function.update (ts sessionId) terminalId x)

/-- Change a terminal that is open. -/
def modify (ts : Sessions) (sessionId : SessionId) (terminalId : TerminalId)
    (f : ActiveTerminal → ActiveTerminal) : Sessions :=
  ts.set sessionId terminalId ((ts sessionId terminalId).map f)

def openTerminal (ts : Sessions) (sessionId : SessionId) (info : TerminalSessionInfo)
    (hostSocketId : SocketId) (hostUserId : UserId) : Sessions :=
  ts.set sessionId info.terminalId (some ⟨info, hostSocketId, hostUserId, []⟩)

def appendData (ts : Sessions) (sessionId : SessionId) (terminalId : TerminalId) (chunk : Units) :
    Sessions :=
  ts.modify sessionId terminalId (·.append chunk)

def resizeTerminal (ts : Sessions) (sessionId : SessionId) (terminalId : TerminalId)
    (cols rows : Number) : Sessions :=
  ts.modify sessionId terminalId (·.resize cols rows)

def updatePermission (ts : Sessions) (sessionId : SessionId) (terminalId : TerminalId)
    (writableBy : TerminalWritableMode) (delegatedUserIds : Option (List UserId)) : Sessions :=
  ts.modify sessionId terminalId (·.permit writableBy delegatedUserIds)

def closeTerminal (ts : Sessions) (sessionId : SessionId) (terminalId : TerminalId) : Sessions :=
  ts.set sessionId terminalId none

def getHostSocketId (ts : Sessions) (sessionId : SessionId) (terminalId : TerminalId) :
    Option SocketId :=
  (ts sessionId terminalId).map (·.hostSocketId)

def isHostSocket (ts : Sessions) (sessionId : SessionId) (terminalId : TerminalId)
    (socketId : SocketId) : Bool :=
  ts.getHostSocketId sessionId terminalId == some socketId

def isSandboxed (ts : Sessions) (sessionId : SessionId) (terminalId : TerminalId) : Bool :=
  (ts sessionId terminalId).any fun x => x.info.sandboxed == some true

def canSendStdin (ts : Sessions) (sessionId : SessionId) (terminalId : TerminalId) (user : JwtPayload)
    (socketId : SocketId) : Bool :=
  match ts sessionId terminalId with
  | none => false
  | some x =>
    if !x.info.interactive then false
    else if x.info.sandboxed == some true then
      isHostRole user.role || match x.info.writableBy with
        | .open_ => true
        | .delegated => x.info.delegatedUserIds.any (·.contains user.sub)
        | .instructorOnly => false
    else x.hostUserId == user.sub && x.hostSocketId == socketId

/-- `cleanupSocket`: the terminals a socket hosts close. -/
def cleanupSocket (ts : Sessions) (socketId : SocketId) : Sessions :=
  fun sessionId terminalId => (ts sessionId terminalId).filter (·.hostSocketId != socketId)

end Sessions

/-! ## The handlers -/

inductive Message
  | join (sessionId : SessionId)
  | leave (sessionId : SessionId)
  | open_ (sessionId : SessionId) (terminal : TerminalSessionInfo)
  | data (sessionId : SessionId) (terminalId : TerminalId) (data : Units)
  | resize (sessionId : SessionId) (terminalId : TerminalId) (cols rows : Number)
  | permission (sessionId : SessionId) (terminalId : TerminalId) (writableBy : String)
      (delegatedUserIds : Option (List UserId))
  | stdin (sessionId : SessionId) (terminalId : TerminalId) (data : Units)
  | close (sessionId : SessionId) (terminalId : TerminalId)

def Message.event : Message → String
  | .join _ => "term:join"
  | .leave _ => "term:leave"
  | .open_ .. => "term:open"
  | .data .. => "term:data"
  | .resize .. => "term:resize"
  | .permission .. => "term:permission"
  | .stdin .. => "term:stdin"
  | .close .. => "term:close"

def notInRoom : Failure := ⟨"NOT_IN_ROOM", "Join the terminal room first"⟩

def notHost : Failure := ⟨"FORBIDDEN",
  "Only the terminal host can publish, resize, change permissions, or close this terminal"⟩

/-- `inRoom` and `isTerminalHost`, which guard most handlers. -/
def asHost (c : SocketId) (k : Sock) (ts : Sessions) (sessionId : SessionId) (terminalId : TerminalId)
    (r : Except Failure Sessions) : Except Failure Sessions :=
  if !k.inRoom sessionId then .error notInRoom
  else if !ts.isHostSocket sessionId terminalId c then .error notHost
  else r

def onOpen (c : SocketId) (k : Sock) (ts : Sessions) (sessionId : SessionId)
    (terminal : TerminalSessionInfo) : Except Failure Sessions :=
  if !k.inRoom sessionId then .error notInRoom
  else if !isHostRole k.user.role then .error ⟨"FORBIDDEN", "Only hosts can open a terminal stream"⟩
  else .ok (ts.openTerminal sessionId terminal c k.user.sub)

def onPermission (c : SocketId) (k : Sock) (ts : Sessions) (sessionId : SessionId)
    (terminalId : TerminalId) (writableBy : String) (delegatedUserIds : Option (List UserId)) :
    Except Failure Sessions :=
  asHost c k ts sessionId terminalId <|
    match TerminalWritableMode.ofString writableBy with
    | none => .error ⟨"INVALID_INPUT", "Unknown terminal permission mode"⟩
    | some mode =>
      if delegatedUserIds.any fun ids => ids.length > 100 || ids.any fun id => jsLength id.toList > 128 then
        .error ⟨"INVALID_INPUT", "Terminal delegation list is invalid"⟩
      else if !isHostRole k.user.role then
        .error ⟨"FORBIDDEN", "Only instructors can change terminal permissions"⟩
      else if !ts.isSandboxed sessionId terminalId && mode != .instructorOnly then
        .error ⟨"FORBIDDEN", "Shared terminal input is disabled until isolated code execution is available"⟩
      else .ok (ts.updatePermission sessionId terminalId mode delegatedUserIds)

def onStdin (c : SocketId) (k : Sock) (ts : Sessions) (sessionId : SessionId) (terminalId : TerminalId)
    (data : Units) : Except Failure Sessions :=
  if !k.inRoom sessionId then .error notInRoom
  else if data.length > 4096 then
    .error ⟨"INVALID_INPUT", "Terminal input must be 4 KB or smaller"⟩
  else if !ts.canSendStdin sessionId terminalId k.user c then
    .error ⟨"FORBIDDEN", "Terminal input is currently locked for you"⟩
  else .ok ts

def receive (c : SocketId) (_now : Nat) (k : Sock) (ts : Sessions) :
    Message → Except Failure (Sock × Sessions)
  | .join sessionId => .ok (k.startJoin sessionId, ts)
  | .leave sessionId => .ok (k.leave sessionId, ts)
  | .open_ sessionId terminal => (k, ·) <$> onOpen c k ts sessionId terminal
  | .data sessionId terminalId data => (k, ·) <$>
      asHost c k ts sessionId terminalId (.ok (ts.appendData sessionId terminalId data))
  | .resize sessionId terminalId cols rows => (k, ·) <$>
      asHost c k ts sessionId terminalId (.ok (ts.resizeTerminal sessionId terminalId cols rows))
  | .permission sessionId terminalId writableBy delegatedUserIds => (k, ·) <$>
      onPermission c k ts sessionId terminalId writableBy delegatedUserIds
  | .stdin sessionId terminalId data => (k, ·) <$> onStdin c k ts sessionId terminalId data
  | .close sessionId terminalId => (k, ·) <$>
      asHost c k ts sessionId terminalId (.ok (ts.closeTerminal sessionId terminalId))

@[reducible] def parties : Parties :=
  sockParties (fun _ _ => none) Message.event receive Sessions.cleanupSocket

/-- `/terminal`: a rate limiter, and no recorder filter. -/
abbrev gateway : Gateway := parties.gateway "term:join" fun _ => [.limit 150]

/-! ## Who hosts a terminal -/

/-- The socket hosts no terminal. -/
def Sessions.Unhosted (c : SocketId) (ts : Sessions) : Prop :=
  ∀ sessionId terminalId x, ts sessionId terminalId = some x → x.hostSocketId ≠ c

namespace Sessions

variable {ts : Sessions} {c d : SocketId} {sessionId : SessionId} {terminalId : TerminalId}

theorem Unhosted.set {o : Option ActiveTerminal} (h : ts.Unhosted c)
    (ho : ∀ x, o = some x → x.hostSocketId ≠ c) : (ts.set sessionId terminalId o).Unhosted c := by
  intro s t x hx
  rcases Lib.put₂_eq hx with ⟨-, -, hnew⟩ | ⟨-, hold⟩
  · exact ho x hnew
  · exact h _ _ x hold

theorem Unhosted.modify {f : ActiveTerminal → ActiveTerminal} (h : ts.Unhosted c)
    (hf : ∀ x, (f x).hostSocketId = x.hostSocketId) : (ts.modify sessionId terminalId f).Unhosted c := by
  refine h.set fun x hx => ?_
  obtain ⟨y, hy, rfl⟩ := Option.map_eq_some_iff.1 hx
  rw [hf]
  exact h _ _ y hy

theorem Unhosted.isHostSocket (h : ts.Unhosted c) : ts.isHostSocket sessionId terminalId c = false := by
  unfold Sessions.isHostSocket getHostSocketId
  cases hx : ts sessionId terminalId with
  | none => rfl
  | some x => simpa using h _ _ x hx

theorem Unhosted.cleanupSocket_self (h : ts.Unhosted c) : ts.cleanupSocket c = ts := by
  funext sessionId terminalId
  unfold cleanupSocket
  cases hx : ts sessionId terminalId with
  | none => rfl
  | some x => simp [h _ _ x hx]

theorem Unhosted.cleanupSocket (h : ts.Unhosted c) : (ts.cleanupSocket d).Unhosted c := by
  intro s t x hx
  exact h s t x (Option.filter_eq_some_iff.1 hx).1

end Sessions

/-! ## Students -/

variable {c d : SocketId} {k : Sock} {ts : Sessions}

/-- What the host-only handlers do is done by the host. -/
theorem asHost_eq_ok {sessionId : SessionId} {terminalId : TerminalId} {r : Except Failure Sessions}
    {ts' : Sessions} (h : asHost c k ts sessionId terminalId r = .ok ts') :
    ts.isHostSocket sessionId terminalId c = true ∧ r = .ok ts' := by
  unfold asHost at h
  split at h
  · cases h
  · split at h
    · cases h
    · rename_i hhost
      exact ⟨by simpa using hhost, h⟩

theorem onOpen_eq_ok {sessionId : SessionId} {terminal : TerminalSessionInfo} {ts' : Sessions}
    (h : onOpen c k ts sessionId terminal = .ok ts') :
    isHostRole k.user.role = true ∧ ts' = ts.openTerminal sessionId terminal c k.user.sub := by
  unfold onOpen at h
  split at h
  · cases h
  · split at h
    · cases h
    · rename_i hrole
      cases h
      exact ⟨by simpa using hrole, rfl⟩

theorem onPermission_eq_ok {sessionId : SessionId} {terminalId : TerminalId} {writableBy : String}
    {ids : Option (List UserId)} {ts' : Sessions}
    (h : onPermission c k ts sessionId terminalId writableBy ids = .ok ts') :
    ts.isHostSocket sessionId terminalId c = true ∧
      ∃ mode, ts' = ts.updatePermission sessionId terminalId mode ids := by
  obtain ⟨hhost, h⟩ := asHost_eq_ok h
  refine ⟨hhost, ?_⟩
  split at h
  · cases h
  · rename_i mode _
    split at h
    · cases h
    · split at h
      · cases h
      · split at h
        · cases h
        · cases h
          exact ⟨mode, rfl⟩

theorem onStdin_eq_ok {sessionId : SessionId} {terminalId : TerminalId} {data : Units} {ts' : Sessions}
    (h : onStdin c k ts sessionId terminalId data = .ok ts') : ts' = ts := by
  unfold onStdin at h
  split at h
  · cases h
  · split at h
    · cases h
    · split at h
      · cases h
      · cases h
        rfl

/-- What a message does to the open terminals: nothing, a host opens one, or the host of one changes
or closes it. -/
theorem receive_cases (now : Nat) {m : Message} {r : Sock × Sessions} (h : receive c now k ts m = .ok r) :
    r.1.user = k.user ∧ (r.2 = ts ∨
      (isHostRole k.user.role = true ∧
        ∃ sessionId terminal, r.2 = ts.openTerminal sessionId terminal c k.user.sub) ∨
      ∃ sessionId terminalId, ts.isHostSocket sessionId terminalId c = true ∧
        ((∃ f : ActiveTerminal → ActiveTerminal, (∀ x, (f x).hostSocketId = x.hostSocketId) ∧
          r.2 = ts.modify sessionId terminalId f) ∨ r.2 = ts.closeTerminal sessionId terminalId)) := by
  have modified {sessionId : SessionId} {terminalId : TerminalId} {f : ActiveTerminal → ActiveTerminal}
      (hf : ∀ x, (f x).hostSocketId = x.hostSocketId) (hr : (k, ·) <$>
        asHost c k ts sessionId terminalId (.ok (ts.modify sessionId terminalId f)) = .ok r) :
      r.1.user = k.user ∧ ∃ sessionId terminalId, ts.isHostSocket sessionId terminalId c = true ∧
        ∃ f : ActiveTerminal → ActiveTerminal, (∀ x, (f x).hostSocketId = x.hostSocketId) ∧
          r.2 = ts.modify sessionId terminalId f := by
    obtain ⟨ts', hts, rfl⟩ := map_eq_ok hr
    obtain ⟨hhost, hts⟩ := asHost_eq_ok hts
    cases hts
    exact ⟨rfl, sessionId, terminalId, hhost, f, hf, rfl⟩
  cases m with
  | join sessionId => cases h; exact ⟨rfl, .inl rfl⟩
  | leave sessionId => cases h; exact ⟨rfl, .inl rfl⟩
  | open_ sessionId terminal =>
    obtain ⟨ts', hts, rfl⟩ := map_eq_ok h
    obtain ⟨hrole, rfl⟩ := onOpen_eq_ok hts
    exact ⟨rfl, .inr (.inl ⟨hrole, sessionId, terminal, rfl⟩)⟩
  | data sessionId terminalId data =>
    obtain ⟨huser, s, t, hhost, hmod⟩ := modified (ActiveTerminal.append_hostSocketId · data) h
    exact ⟨huser, .inr (.inr ⟨s, t, hhost, .inl hmod⟩)⟩
  | resize sessionId terminalId cols rows =>
    obtain ⟨huser, s, t, hhost, hmod⟩ := modified (ActiveTerminal.resize_hostSocketId · cols rows) h
    exact ⟨huser, .inr (.inr ⟨s, t, hhost, .inl hmod⟩)⟩
  | permission sessionId terminalId writableBy ids =>
    obtain ⟨ts', hts, rfl⟩ := map_eq_ok h
    obtain ⟨hhost, mode, rfl⟩ := onPermission_eq_ok hts
    exact ⟨rfl, .inr (.inr ⟨sessionId, terminalId, hhost,
      .inl ⟨_, (ActiveTerminal.permit_hostSocketId · mode ids), rfl⟩⟩)⟩
  | stdin sessionId terminalId data =>
    obtain ⟨ts', hts, rfl⟩ := map_eq_ok h
    exact ⟨rfl, .inl (onStdin_eq_ok hts)⟩
  | close sessionId terminalId =>
    obtain ⟨ts', hts, rfl⟩ := map_eq_ok h
    obtain ⟨hhost, hts⟩ := asHost_eq_ok hts
    cases hts
    exact ⟨rfl, .inr (.inr ⟨sessionId, terminalId, hhost, .inr rfl⟩)⟩

/-- A student's own messages leave the terminals of others alone. -/
theorem receive_student (now : Nat) {m : Message} {r : Sock × Sessions} (hk : k.user.role = .student)
    (hts : ts.Unhosted c) (h : receive c now k ts m = .ok r) : r.2 = ts := by
  obtain ⟨-, hsame | ⟨hrole, -⟩ | ⟨sessionId, terminalId, hhost, -⟩⟩ := receive_cases now h
  · exact hsame
  · rw [hk] at hrole
    cases hrole
  · rw [hts.isHostSocket] at hhost
    cases hhost

/-- The messages of other sockets leave a socket without terminals without terminals. -/
theorem receive_unhosted (now : Nat) {m : Message} {r : Sock × Sessions} (hd : d ≠ c) (hts : ts.Unhosted c)
    (h : receive d now k ts m = .ok r) : r.2.Unhosted c := by
  obtain ⟨-, hsame | ⟨-, sessionId, terminal, hopen⟩ | ⟨sessionId, terminalId, -, hmod⟩⟩ :=
    receive_cases now h
  · rw [hsame]
    exact hts
  · rw [hopen]
    refine hts.set fun x hx => ?_
    cases hx
    exact hd
  · rcases hmod with ⟨f, hf, hmod⟩ | hclose
    · rw [hmod]
      exact hts.modify hf
    · rw [hclose]
      exact hts.set fun x hx => by cases hx

theorem student_harmless (c : SocketId) {user : JwtPayload} (h : user.role = .student) :
    parties.Harmless c user (fun k => k.user.role = .student) (Sessions.Unhosted c) where
  start := fun _ _ _ hx => by cases hx
  enter := h
  own := by
    intro k ts a hk hts
    cases a with
    | settle permitted => exact ⟨hk, rfl⟩
    | receive now message =>
      rcases parties.perform_receive c now k ts message with hsame | hr
      · rw [hsame]
        exact ⟨hk, rfl⟩
      · refine ⟨?_, receive_student now hk hts hr⟩
        rw [(receive_cases now hr).1]
        exact hk
    | resume answer =>
      refine ⟨?_, k.resume_shared ts answer⟩
      show (k.resume ts answer).1.user.role = .student
      rw [Sock.user_resume]
      exact hk
    | disconnect => exact ⟨hk, hts.cleanupSocket_self⟩
  others := by
    intro d k ts a hd hts
    cases a with
    | settle permitted => exact hts
    | receive now message =>
      rcases parties.perform_receive d now k ts message with hsame | hr
      · rw [hsame]
        exact hts
      · exact receive_unhosted now hd hts hr
    | resume answer =>
      show Sessions.Unhosted c (k.resume ts answer).2
      rw [Sock.resume_shared]
      exact hts
    | disconnect => exact hts.cleanupSocket
  background := fun {_ b} _ => b.elim

/-- A student's socket leaves no trace on the terminals, with or without a filter. -/
theorem student_silent {user : JwtPayload} (h : user.role = .student) : Silent gateway user :=
  Parties.silent_of_harmless fun c => student_harmless c h

end Livetich.Terminal
