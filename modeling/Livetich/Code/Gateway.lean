/-
The code gateway: the handlers of `/code` over the documents of all sessions, each kept by the
document service, and over what `CodeDocService` keeps beside a document: the permission, the tree,
the focus and the expanded folders.

An entry of the service is known by its number, so what is kept beside its document is kept under
that number. A socket that goes releases its sessions one after another. Messages that are only
relayed to the room change nothing here.
-/
import Livetich.Js.Json
import Livetich.Code.DocService
import Livetich.Sockets.Join

namespace Livetich.Code

open TransSys
open Livetich.Sockets (Failure JoinReads Parties Gateway)
open Livetich.Js (Number Json)

variable {E : Type} [DecidableEq E]

/-! ## What is kept beside a document -/

inductive CodeWritePermissionMode
  | instructorOnly
  | open_
  | delegated
  deriving DecidableEq

structure CodePermissionPayload where
  sessionId : SessionId
  mode : CodeWritePermissionMode
  delegatedUserIds : Option (List UserId)
  deriving DecidableEq

structure CodePosition where
  line : Number
  ch : Number
  deriving DecidableEq

structure CodeSelection where
  anchor : CodePosition
  active : CodePosition
  deriving DecidableEq

structure CodeFocusPayload where
  sessionId : SessionId
  controllerUserId : Option UserId
  isSnapshot : Option Bool
  path : String
  cursor : Option CodePosition
  selection : Option CodeSelection
  content : Option String
  openFiles : Option (List String)
  deriving DecidableEq

/-- The fields of a `CodeEntry` other than its document. -/
structure Surface where
  permission : CodePermissionPayload
  tree : Option Json
  focus : Option CodeFocusPayload
  expandedFolders : Option (List String)

def instructorOnly (sessionId : SessionId) : CodePermissionPayload := ⟨sessionId, .instructorOnly, none⟩

def Surface.new (sessionId : SessionId) : Surface := ⟨instructorOnly sessionId, none, none, none⟩

/-! ## The documents -/

structure Docs (E : Type) where
  service : SessionId → DocService.State E
  /-- By the number of the entry. -/
  surfaces : SessionId → Nat → Surface
  nextTask : Nat

namespace Docs

/-- A fresh process over a store. -/
def init (store : SessionId → Option (Doc E)) : Docs E where
  service sessionId := DocService.init (store sessionId)
  surfaces sessionId _ := Surface.new sessionId
  nextTask := 0

variable (y : Yjs E)

/-- The service of a session takes an event, if it can. -/
def take (docs : Docs E) (sessionId : SessionId) (e : DocService.Event E) : Docs E :=
  let service := docs.service sessionId
  { docs with
    service := Function.update docs.service sessionId ((DocService.step y service e).getD service) }

/-- A call of the service that may have to wait, as task `nextTask`. -/
def call (docs : Docs E) (sessionId : SessionId) (e : Nat → DocService.Event E) : Docs E :=
  { docs.take y sessionId (e docs.nextTask) with nextTask := docs.nextTask + 1 }

omit [DecidableEq E] in
def task (docs : Docs E) (sessionId : SessionId) (i : Nat) : Option (DocService.Task E) :=
  (docs.service sessionId).tasks.get i

omit [DecidableEq E]

/-- The number of the registered entry. -/
def entry (docs : Docs E) (sessionId : SessionId) : Option Nat := (docs.service sessionId).docs

def surface (docs : Docs E) (sessionId : SessionId) : Option Surface :=
  (docs.entry sessionId).map (docs.surfaces sessionId)

/-- The setters, which do nothing without an entry. -/
def setSurface (docs : Docs E) (sessionId : SessionId) (f : Surface → Surface) : Docs E :=
  match docs.entry sessionId with
  | some e =>
    let surfaces := docs.surfaces sessionId
    { docs with surfaces :=
        Function.update docs.surfaces sessionId (Function.update surfaces e (f (surfaces e))) }
  | none => docs

def setPermission (docs : Docs E) (payload : CodePermissionPayload) : Docs E :=
  docs.setSurface payload.sessionId ({ · with permission := payload })

def setTree (docs : Docs E) (sessionId : SessionId) (tree : Json) : Docs E :=
  docs.setSurface sessionId ({ · with tree := some tree })

def setFocus (docs : Docs E) (focus : CodeFocusPayload) : Docs E :=
  docs.setSurface focus.sessionId ({ · with focus := some focus })

def setFoldersState (docs : Docs E) (sessionId : SessionId) (expanded : List String) : Docs E :=
  docs.setSurface sessionId ({ · with expandedFolders := some expanded })

def encodeState (docs : Docs E) (sessionId : SessionId) : Option (Doc E) :=
  (docs.service sessionId).registered.map (·.2.doc)

def getPermission (docs : Docs E) (sessionId : SessionId) : CodePermissionPayload :=
  ((docs.surface sessionId).map (·.permission)).getD (instructorOnly sessionId)

def getTree (docs : Docs E) (sessionId : SessionId) : Option Json :=
  (docs.surface sessionId).bind (·.tree)

def getFocus (docs : Docs E) (sessionId : SessionId) : Option CodeFocusPayload :=
  (docs.surface sessionId).bind (·.focus)

def getFoldersState (docs : Docs E) (sessionId : SessionId) : Option (List String) :=
  (docs.surface sessionId).bind (·.expandedFolders)

def canWrite (docs : Docs E) (sessionId : SessionId) (user : JwtPayload) : Bool :=
  let perm := docs.getPermission sessionId
  perm.mode == .open_ || (perm.mode == .delegated && perm.delegatedUserIds.any (·.contains user.sub))

end Docs

/-! ## Sockets -/

/-- A call of `onJoin` that waits for `retain`, as the task of that number. -/
structure Retaining where
  sessionId : SessionId
  session : LiveSession
  task : Nat

/-- The loop of `handleDisconnect`, waiting for a `release`. -/
structure Dropping where
  sessionId : SessionId
  task : Nat
  /-- The sessions the loop has come to. -/
  released : List SessionId

structure CodeSock extends Sockets.Sock where
  controlledSessionIds : List SessionId
  retaining : List Retaining
  dropping : Option Dropping

namespace CodeSock

def new (user : JwtPayload) : CodeSock := ⟨.new user, [], [], none⟩

def controls (k : CodeSock) (sessionId : SessionId) : Bool := k.controlledSessionIds.contains sessionId

/-- `onJoin` once the document is retained. -/
def enter (k : CodeSock) (sessionId : SessionId) (session : LiveSession) : CodeSock :=
  { k with
    toSock := k.toSock.enter sessionId
    controlledSessionIds :=
      if (session.course.instructorId = some k.user.sub ∨ k.user.role = .orgAdmin) ∧
          !k.controls sessionId then k.controlledSessionIds ++ [sessionId]
      else k.controlledSessionIds }

def leave (k : CodeSock) (sessionId : SessionId) : CodeSock :=
  { k with
    toSock := k.toSock.leave sessionId
    controlledSessionIds := k.controlledSessionIds.filter (· != sessionId) }

end CodeSock

/-! ## The handlers -/

/-- Messages that are only relayed to the room. -/
inductive Relay
  | awareness | cursor | scroll | folderToggle | collapseAll | pointer | spotlight | tabCloseResult
  deriving DecidableEq

def Relay.event : Relay → String
  | .awareness => "code:awareness"
  | .cursor => "code:cursor"
  | .scroll => "code:scroll"
  | .folderToggle => "code:folder-toggle"
  | .collapseAll => "code:collapse-all"
  | .pointer => "code:pointer"
  | .spotlight => "code:spotlight"
  | .tabCloseResult => "code:tab-close-result"

inductive Message (E : Type)
  | join (sessionId : SessionId)
  | leave (sessionId : SessionId)
  /-- `update` is `none` where Yjs cannot read the bytes. -/
  | update (sessionId : SessionId) (byteLength : Nat) (update : Option (Update E))
  | tree (sessionId : SessionId) (tree : Json)
  | focus (p : CodeFocusPayload)
  /-- `edit` names the insertion the server makes. -/
  | edit (sessionId : SessionId) (path content : String) (edit : E)
  | foldersState (sessionId : SessionId) (expanded : List String)
  | permission (p : CodePermissionPayload)
  | tabClose (sessionId : SessionId) (nextActive : Option String) (openFiles : Option (List String))
      (requestId : Option String)
  | relay (r : Relay)

omit [DecidableEq E] in
def Message.event : Message E → String
  | .join _ => "code:join"
  | .leave _ => "code:leave"
  | .update .. => "code:update"
  | .tree .. => "code:tree"
  | .focus _ => "code:focus"
  | .edit .. => "code:edit"
  | .foldersState .. => "code:folders-state"
  | .permission _ => "code:permission"
  | .tabClose .. => "code:tab-close"
  | .relay r => r.event

def maxCodeUpdateBytes : Nat := 2 * 1024 * 1024

/-- An integer from 0 to 100000. -/
def isCodeCoordinate (n : Number) : Bool := n.toInteger.any fun i => 0 ≤ i && i ≤ 100000

def isSafeCodePosition (p : CodePosition) : Bool := isCodeCoordinate p.line && isCodeCoordinate p.ch

def notInRoom : Failure := ⟨"NOT_IN_ROOM", "Join the code editor first"⟩

def onUpdate (y : Yjs E) (k : CodeSock) (docs : Docs E) (sessionId : SessionId) (byteLength : Nat)
    (update : Option (Update E)) : Except Failure (Docs E) :=
  if !k.inRoom sessionId then .error notInRoom
  else if !k.controls sessionId && !docs.canWrite sessionId k.user then
    .error ⟨"FORBIDDEN", "The code editor is currently read-only for you"⟩
  else if byteLength = 0 ∨ byteLength > maxCodeUpdateBytes then .ok docs
  else match update.filter (DocService.accepts y (docs.service sessionId)) with
    | some u => .ok (docs.take y sessionId (.applyUpdate u))
    | none => .error
      ⟨"INVALID_CODE_UPDATE", "The update contains an invalid or oversized code document"⟩

/-- The guard of the handlers for the session's controller. -/
def asController {α : Type} (k : CodeSock) (sessionId : SessionId) (message : String)
    (r : Except Failure α) : Except Failure α :=
  if !k.inRoom sessionId then .error notInRoom
  else if !k.controls sessionId then .error ⟨"FORBIDDEN", message⟩
  else r

theorem asController_ok_iff {α : Type} {k : CodeSock} {sessionId : SessionId} {message : String}
    {r : Except Failure α} {a : α} : asController k sessionId message r = .ok a ↔
      k.inRoom sessionId = true ∧ k.controls sessionId = true ∧ r = .ok a := by
  unfold asController
  by_cases hroom : k.inRoom sessionId = true
  · by_cases hcontrols : k.controls sessionId = true
    · simp [hroom, hcontrols]
    · simp [hroom, hcontrols]
  · simp [hroom]

omit [DecidableEq E] in
def onTree (k : CodeSock) (docs : Docs E) (sessionId : SessionId) (tree : Json) :
    Except Failure (Docs E) :=
  asController k sessionId "Only the session instructor can modify the workspace tree"
    (.ok (docs.setTree sessionId tree))

omit [DecidableEq E] in
def onFocus (k : CodeSock) (docs : Docs E) (p : CodeFocusPayload) : Except Failure (Docs E) :=
  asController k p.sessionId "Only the session instructor can control mirrored focus" <|
    if jsLength p.path.toList > 512 ∨ (p.path ≠ "" ∧ !isFilePath p.path) ∨
        (p.openFiles.any fun files => files.length > 1000 || files.any (!isFilePath ·)) ∨
        (p.cursor.any (!isSafeCodePosition ·)) ∨
        (p.selection.any fun s => !isSafeCodePosition s.anchor || !isSafeCodePosition s.active) then
      .ok docs
    else .ok (docs.setFocus { p with controllerUserId := some k.user.sub, isSnapshot := some false })

def onEdit (y : Yjs E) (k : CodeSock) (docs : Docs E) (sessionId : SessionId) (path content : String)
    (edit : E) : Except Failure (Docs E) :=
  asController k sessionId "The code editor is currently read-only for you" <|
    if !isFilePath path || content.utf8ByteSize > 1024 * 1024 then .ok docs
    else .ok (docs.take y sessionId (.seedFileContent path content edit))

omit [DecidableEq E] in
def onFoldersState (k : CodeSock) (docs : Docs E) (sessionId : SessionId) (expanded : List String) :
    Except Failure (Docs E) :=
  if !k.inRoom sessionId then .error notInRoom
  else if !k.controls sessionId then .ok docs
  else .ok (docs.setFoldersState sessionId expanded)

omit [DecidableEq E] in
def onPermission (k : CodeSock) (docs : Docs E) (p : CodePermissionPayload) :
    Except Failure (Docs E) :=
  asController k p.sessionId "Only the session instructor can change editing permissions"
    (.ok (docs.setPermission p))

omit [DecidableEq E] in
def onTabClose (k : CodeSock) (docs : Docs E) (sessionId : SessionId) (nextActive : Option String)
    (openFiles : Option (List String)) (requestId : Option String) : Except Failure (Docs E) :=
  asController k sessionId "Only the session instructor can control mirrored tabs" <|
    if (openFiles.any fun files => files.length > 1000 || files.any (jsLength ·.toList > 512)) ∨
        (requestId.any (jsLength ·.toList > 128)) then .ok docs
    else .ok (docs.setFocus {
      sessionId := sessionId
      controllerUserId := some k.user.sub
      isSnapshot := none
      path := nextActive.getD ""
      cursor := none
      selection := none
      content := none
      openFiles := some (openFiles.getD []) })

/-- `onLeave`: a session the socket is not in is passed over. -/
def onLeave (y : Yjs E) (k : CodeSock) (docs : Docs E) (sessionId : SessionId) : CodeSock × Docs E :=
  if !k.inRoom sessionId then (k, docs)
  else (k.leave sessionId, docs.call y sessionId .release)

def receive (y : Yjs E) (_c : SocketId) (_now : Nat) (k : CodeSock) (docs : Docs E) :
    Message E → Except Failure (CodeSock × Docs E)
  | .join sessionId => .ok ({ k with toSock := k.toSock.startJoin sessionId }, docs)
  | .leave sessionId => .ok (onLeave y k docs sessionId)
  | .update sessionId byteLength update => (k, ·) <$> onUpdate y k docs sessionId byteLength update
  | .tree sessionId tree => (k, ·) <$> onTree k docs sessionId tree
  | .focus p => (k, ·) <$> onFocus k docs p
  | .edit sessionId path content edit => (k, ·) <$> onEdit y k docs sessionId path content edit
  | .foldersState sessionId expanded => (k, ·) <$> onFoldersState k docs sessionId expanded
  | .permission p => (k, ·) <$> onPermission k docs p
  | .tabClose sessionId nextActive openFiles requestId =>
    (k, ·) <$> onTabClose k docs sessionId nextActive openFiles requestId
  | .relay _ => .ok (k, docs)

/-! ## Awaited answers -/

inductive Answer
  /-- Call `i` of `onJoin` goes on. -/
  | onJoin (i : Nat) (reads : JoinReads)
  /-- So does call `i` of those that wait for `retain`. -/
  | retained (i : Nat)
  /-- So does the loop of `handleDisconnect`. -/
  | released

/-- The loop of `handleDisconnect` goes on to the next session. -/
def dropNext (y : Yjs E) (k : CodeSock) (docs : Docs E) (released : List SessionId) :
    CodeSock × Docs E :=
  match k.sessionIds.find? (!released.contains ·) with
  | some sessionId =>
    ({ k with dropping := some ⟨sessionId, docs.nextTask, released ++ [sessionId]⟩ },
      docs.call y sessionId .release)
  | none => ({ k with dropping := none }, docs)

/-- `retain` has returned its entry, or thrown what the load threw. -/
def onRetained (y : Yjs E) (k : CodeSock) (docs : Docs E) (i : Nat) (r : Retaining) :
    CodeSock × Docs E :=
  let ended := { k with retaining := k.retaining.eraseIdx i }
  let service := docs.service r.sessionId
  match service.tasks.get r.task with
  | some (.retain e) =>
    -- the load is still pending
    if service.loading.any (·.1 == e) then (k, docs)
    else
      let docs := docs.take y r.sessionId (.resume r.task)
      if (service.heap e).isSome then (ended.enter r.sessionId r.session, docs) else (ended, docs)
  | _ => (ended.enter r.sessionId r.session, docs)

def resume (y : Yjs E) (_c : SocketId) (k : CodeSock) (docs : Docs E) : Answer → CodeSock × Docs E
  | .onJoin i reads => match k.toSock.onJoin i reads with
    | (sock, some (sessionId, session)) =>
      ({ k with toSock := sock, retaining := k.retaining ++ [⟨sessionId, session, docs.nextTask⟩] },
        docs.call y sessionId .retain)
    | (sock, none) => ({ k with toSock := sock }, docs)
  | .retained i => match k.retaining[i]? with
    | some r => onRetained y k docs i r
    | none => (k, docs)
  | .released => match k.dropping with
    | some d => if (docs.task d.sessionId d.task).isNone then dropNext y k docs d.released else (k, docs)
    | none => (k, docs)

/-- What the document service does by itself. -/
inductive Background
  | load (sessionId : SessionId)
  | loadFails (sessionId : SessionId)
  /-- The flush timer reaches the session. -/
  | tick (sessionId : SessionId)
  /-- A flush goes on. -/
  | flush (sessionId : SessionId) (i : Nat)
  | putFails (sessionId : SessionId) (i : Nat) (stored : Bool)

def background (y : Yjs E) (docs : Docs E) : Background → Docs E
  | .load sessionId => docs.take y sessionId .load
  | .loadFails sessionId => docs.take y sessionId .loadFails
  | .tick sessionId => docs.call y sessionId .tick
  | .flush sessionId i => match docs.task sessionId i with
    | some (.retain _) => docs
    | _ => docs.take y sessionId (.resume i)
  | .putFails sessionId i stored => docs.take y sessionId (.putFails i stored)

/-! ## The gateway -/

/-- What the class sees of a session's code. -/
structure CodeView (E : Type) where
  doc : Option (Doc E)
  permission : CodePermissionPayload
  tree : Option Json
  focus : Option CodeFocusPayload
  expandedFolders : Option (List String)

omit [DecidableEq E] in
def Docs.view (docs : Docs E) (sessionId : SessionId) : CodeView E where
  doc := docs.encodeState sessionId
  permission := docs.getPermission sessionId
  tree := docs.getTree sessionId
  focus := docs.getFocus sessionId
  expandedFolders := docs.getFoldersState sessionId

@[reducible] def parties (y : Yjs E) (store : SessionId → Option (Doc E)) : Parties where
  Sock := CodeSock
  Shared := Docs E
  Message := Message E
  Answer := Answer
  Background := Background
  Shown := SessionId → CodeView E
  start := .init store
  event := Message.event
  enter := .new
  settle k permitted := { k with toSock := k.toSock.settle permitted }
  receive := receive y
  resume := resume y
  disconnect _ k docs := dropNext y k docs []
  background := background y
  shown := Docs.view

/-- `/code`: a rate limiter, and no recorder filter. -/
abbrev gateway (y : Yjs E) (store : SessionId → Option (Doc E)) : Gateway :=
  (parties y store).gateway "code:join" fun _ => [.limit 100]

end Livetich.Code
