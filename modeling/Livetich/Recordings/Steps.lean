/-
The writers of a recording's row as tasks that run from one awaited answer to the next:
`RecordingsService.start`, `stop` and `applyEgressResult` (called by the webhook and by the
reconciler), and the reconciler's three passes; beside them the calls that change live sessions and
what LiveKit does to an egress by itself.

A query returns any rows that match it, in any order, up to its limit. A call that fails may have taken
effect all the same. The order in which `start` asks for the public URLs, a publisher, the workspace's
settings and its usage is kept; what the answers say is part of the event that carries them.
-/
import Livetich.Recordings.Report
import Livetich.Sessions.Live

namespace Livetich.Recordings

open Livetich.Js Livetich.Lib TransSys

/-! ## LiveKit's side -/

inductive Phase
  | running
  /-- A stop was accepted; the file is being written. -/
  | ending
  /-- Over, with LiveKit's report. -/
  | closed (info : EgressInfo)
  /-- Over, and no longer listed; a webhook may still be under way. -/
  | forgotten (info : EgressInfo)
  deriving DecidableEq

structure Egress where
  sessionId : SessionId
  phase : Phase
  deriving DecidableEq

/-- The report of an egress that is over. -/
def Phase.report : Phase → Option EgressInfo
  | .closed info | .forgotten info => some info
  | _ => none

/-! ## Tasks -/

/-- A row as one of the reconciler's queries returns it, with its workspace's ceiling in minutes. -/
structure Snap where
  id : RecordingId
  egressId : Option EgressId
  createdAt : Int
  cap : Option Int
  deriving DecidableEq

/-- What follows a stop or a result: the end of a request, or the rest of a pass of the reconciler. -/
inductive Next
  | done
  | ended (rest : List Snap)
  | overrun (rest : List Snap)
  | stuck (rest : List Snap)
  deriving DecidableEq

/-- What `start` asks for between its check for a running row and the new row. -/
inductive Stage
  | urls
  | publisher
  | settings
  | usage
  | create
  deriving DecidableEq

inductive Task
  /-- `start`: the session, the running row, the stages up to the new row, the recorder's token, the
  egress, the RECORDING write; and the FAILED write of its catch. -/
  | startSession (sessionId : SessionId) (organizationId : OrganizationId)
  | startRunning (sessionId : SessionId) (organizationId : OrganizationId)
  | startStage (stage : Stage) (sessionId : SessionId) (organizationId : OrganizationId) (page : Bool)
  | startMint (sessionId : SessionId) (organizationId : OrganizationId) (id : RecordingId)
  | startEgress (sessionId : SessionId) (organizationId : OrganizationId) (id : RecordingId)
  | startWrite (sessionId : SessionId) (id : RecordingId) (egressId : EgressId) (storageKey : String)
  | startCatch (sessionId : SessionId) (id : RecordingId) (error : String)
  /-- `stop` looks for the row. -/
  | stopFind (sessionId : SessionId) (organizationId : OrganizationId)
  /-- LiveKit is asked to stop; then the PROCESSING write. -/
  | stopEgress (next : Next) (id : RecordingId) (egressId : EgressId)
  | stopWrite (next : Next) (id : RecordingId)
  /-- `applyEgressResult`: the row, the size of the stored file, the write. -/
  | applyFind (next : Next) (result : EgressResult)
  | applySize (next : Next) (id : RecordingId) (storageKey : String) (result : EgressResult)
  | applyWrite (next : Next) (id : RecordingId) (status : ResultStatus) (write : Recording → Recording)
  /-- The reconciler's three queries. -/
  | endedFind
  | overFind
  | stuckFind
  | describe (rest : List Snap) (row : Snap) (egressId : EgressId)
  | failWrite (rest : List Snap) (id : RecordingId) (error : String)

structure State where
  sessions : Sessions.State
  recordings : Db
  egresses : Table EgressId Egress
  tasks : Pool Task
  /-- The rows LiveKit's own report was written to, and what it said; no handler reads this. -/
  reported : List (RecordingId × ResultStatus)

/-- Each workspace's `maxRecordingMinutes`, and the time zones. -/
structure World where
  maxRecordingMinutes : OrganizationId → Option Int
  tzdb : String → Option Zone

/-- How a call ends: it fails without effect, or after it took effect, or it succeeds. -/
inductive Reply
  | refused
  | lost
  | ok
  deriving DecidableEq

/-- What the answer to a task's call says, as far as the task reads it. -/
structure Answer where
  reply : Reply
  now : Int
  /-- The rows a query returns. -/
  rows : List RecordingId
  /-- The id of a new row, and of a new egress. -/
  id : RecordingId
  egressId : EgressId
  /-- Both public URLs can be reached; the camera alone may be recorded; somebody publishes; the
  storage is full. -/
  page : Bool
  cameraOnly : Bool
  published : Bool
  full : Bool
  /-- The size of a stored object. -/
  size : Option Number
  /-- The text of an error. -/
  error : String

def Answer.ok (a : Answer) : Bool := a.reply == .ok

def Answer.commits (a : Answer) : Bool := a.reply != .refused

/-! ## The passes -/

def SETTLE_MS : Int := 60000

/-- How many rows a pass takes at once. -/
def take : Nat := 25

/-- `stopRecordingsForEndedClasses` from a row on: one without an egress id is skipped. -/
def endedFrom : List Snap → Task
  | [] => .overFind
  | r :: rest => match truthy r.egressId with
    | some e => .stopEgress (.ended rest) r.id e
    | none => endedFrom rest

/-- Whether a recording has run past its workspace's ceiling. -/
def overran (now : Int) (r : Snap) : Bool :=
  r.cap.any fun cap => 0 < cap && cap * 60000 ≤ now - r.createdAt

/-- `stopOverrunningRecordings` from a row on. -/
def overFrom (now : Int) : List Snap → Task
  | [] => .stuckFind
  | r :: rest => match overran now r, truthy r.egressId with
    | true, some e => .stopEgress (.overrun rest) r.id e
    | _, _ => overFrom now rest

/-- The main pass from a row on. -/
def stuckFrom : List Snap → Option Task
  | [] => none
  | r :: rest => match truthy r.egressId with
    | some e => some (.describe rest r e)
    | none => some (.failWrite rest r.id "Recording never started")

def goOn (now : Int) : Next → Option Task
  | .done => none
  | .ended rest => some (endedFrom rest)
  | .overrun rest => some (overFrom now rest)
  | .stuck rest => stuckFrom rest

/-! ## Effects -/

/-- What a step writes, to the rows or at LiveKit. -/
inductive Effect
  | silent
  | create (id : RecordingId) (row : Recording)
  | recording (id : RecordingId) (egressId : EgressId) (storageKey : String)
  | processing (id : RecordingId)
  | fail (id : RecordingId) (error : String)
  | result (id : RecordingId) (status : ResultStatus) (write : Recording → Recording)
  | launch (egressId : EgressId) (sessionId : SessionId)
  | halt (egressId : EgressId)

def recordingRow (egressId : EgressId) (storageKey : String) (r : Recording) : Recording :=
  { r with egressId := some egressId, storageKey := some storageKey, status := .recording }

def processingRow (r : Recording) : Recording := { r with status := .processing }

def erroredRow (error : String) (r : Recording) : Recording :=
  { r with status := .failed, error := some error }

def Effect.run (s : State) : Effect → State
  | .silent => s
  | .create id row => { s with recordings := s.recordings.insert id row }
  | .recording id e key => { s with recordings := s.recordings.modify id (recordingRow e key) }
  | .processing id => { s with recordings := s.recordings.modify id processingRow }
  | .fail id error => { s with recordings := s.recordings.modify id (erroredRow error) }
  | .result id status write =>
    { s with recordings := s.recordings.modify id write, reported := (id, status) :: s.reported }
  | .launch e sessionId => { s with egresses := s.egresses.insert e ⟨sessionId, .running⟩ }
  | .halt e => { s with egresses := s.egresses.modify e fun g => { g with phase := .ending } }

/-- A call with an effect, and what follows its success and its failure. -/
def call (a : Answer) (effect : Effect) (onOk onError : Option Task) : Effect × Option Task :=
  (if a.commits then effect else .silent, if a.ok then onOk else onError)

/-- A call that only reads. -/
def reads (a : Answer) (onOk onError : Option Task) : Effect × Option Task :=
  (.silent, if a.ok then onOk else onError)

/-! ## The next step of each task -/

def phaseOf (s : State) (e : EgressId) : Option Phase := (s.egresses.get e).map fun g => g.phase

def snaps (w : World) (s : State) (ids : List RecordingId) : List Snap :=
  ids.filterMap fun id => (s.recordings.get id).map fun r =>
    ⟨id, r.egressId, r.createdAt, w.maxRecordingMinutes r.organizationId⟩

def storageKey (organizationId : OrganizationId) (id : RecordingId) : String :=
  "recordings/" ++ organizationId ++ "/" ++ id ++ ".mp4"

/-- A new row. -/
def newRow (sessionId : SessionId) (organizationId : OrganizationId) (now : Int) : Recording where
  sessionId
  organizationId
  status := .starting
  egressId := none
  storageKey := none
  sizeBytes := none
  durationSec := none
  error := none
  createdAt := now
  readyAt := none

/-- `start` once its session is read. -/
def mayStart (s : State) (sessionId : SessionId) (organizationId : OrganizationId) : Bool :=
  (s.sessions.db.sessions.get sessionId).any fun session =>
    session.status == .live &&
      (s.sessions.db.course session.courseId).any fun c => c.organizationId == some organizationId

def startStage (a : Answer) (sessionId : SessionId) (organizationId : OrganizationId) (page : Bool) :
    Stage → Effect × Option Task
  | .urls => reads a
      (if a.page then some (.startStage .settings sessionId organizationId true)
      else if a.cameraOnly then some (.startStage .publisher sessionId organizationId false)
      else none) none
  | .publisher => reads a
      (if a.published then some (.startStage .settings sessionId organizationId page) else none) none
  | .settings => reads a (some (.startStage .usage sessionId organizationId page)) none
  | .usage => reads a
      (if a.full then none else some (.startStage .create sessionId organizationId page)) none
  | .create => call a (.create a.id (newRow sessionId organizationId a.now))
      (some (if page then .startMint sessionId organizationId a.id
        else .startEgress sessionId organizationId a.id)) none

/-- `applyEgressResult` once the row is found. -/
def afterFind (now : Int) (next : Next) (result : EgressResult) (id : RecordingId) (r : Recording) :
    Option Task :=
  match result.status, result.sizeBytes, truthy r.storageKey with
  | .complete, none, some key => some (.applySize next id key result)
  | _, _, _ => match applied (fun _ => .error .storage) now r.storageKey result with
    | .ok write => some (.applyWrite next id result.status write)
    | .error _ => goOn now next

def move (w : World) (s : State) (a : Answer) : Task → Effect × Option Task
  | .startSession sessionId organizationId => reads a
      (if mayStart s sessionId organizationId then some (.startRunning sessionId organizationId) else none) none
  | .startRunning sessionId organizationId => reads a
      (if a.rows.isEmpty then some (.startStage .urls sessionId organizationId false) else none) none
  | .startStage stage sessionId organizationId page => startStage a sessionId organizationId page stage
  | .startMint sessionId organizationId id =>
      reads a (some (.startEgress sessionId organizationId id)) (some (.startCatch sessionId id a.error))
  | .startEgress sessionId organizationId id => call a (.launch a.egressId sessionId)
      (some (.startWrite sessionId id a.egressId (storageKey organizationId id)))
      (some (.startCatch sessionId id a.error))
  | .startWrite sessionId id e key =>
      call a (.recording id e key) none (some (.startCatch sessionId id a.error))
  | .startCatch _ id error => call a (.fail id error) none none
  | .stopFind _ _ => reads a
      (a.rows.head?.bind fun id => (s.recordings.get id).map fun r => match truthy r.egressId with
        | some e => .stopEgress .done id e
        | none => .stopWrite .done id) none
  | .stopEgress next id e => call a (.halt e) (some (.stopWrite next id)) (goOn a.now next)
  | .stopWrite next id => call a (.processing id) (goOn a.now next) (goOn a.now next)
  | .applyFind next result => reads a
      (match findUnique s.recordings result.egressId with
        | some (id, r) => afterFind a.now next result id r
        | none => goOn a.now next) (goOn a.now next)
  | .applySize next id key result => reads a
      (match applied (fun _ => .ok a.size) a.now (some key) result with
        | .ok write => some (.applyWrite next id result.status write)
        | .error _ => goOn a.now next) (goOn a.now next)
  | .applyWrite next id status write =>
      call a (.result id status write) (goOn a.now next) (goOn a.now next)
  | .endedFind => reads a (some (endedFrom (snaps w s a.rows))) none
  | .overFind => reads a (some (overFrom a.now (snaps w s a.rows))) none
  | .stuckFind => reads a (stuckFrom (snaps w s a.rows)) none
  | .describe rest r e => reads a
      (match phaseOf s e with
        | some .running | some .ending => stuckFrom rest
        | some (.closed info) => some (.applyFind (.stuck rest) (pulledResult e (described info)))
        | some (.forgotten _) | none =>
          if ABANDON_MS < a.now - r.createdAt then
            some (.failWrite rest r.id "LiveKit has no record of this recording")
          else stuckFrom rest) (stuckFrom rest)
  | .failWrite rest id error => call a (.fail id error) (stuckFrom rest) (stuckFrom rest)

/-! ## Steps -/

/-- `rows` are `n` of the rows that match, or all of them. -/
def takes (s : State) (p : Recording → Bool) (n : Nat) (rows : List RecordingId) : Bool :=
  decide rows.Nodup && decide (rows.length ≤ n) &&
    rows.all (fun id => (s.recordings.get id).any p) &&
    (rows.length == n || s.recordings.entries.all fun e => !p e.2 || rows.contains e.1)

def isRunning (s : State) (e : EgressId) : Bool := phaseOf s e == some .running

def hasEnded (s : State) (r : Recording) : Bool :=
  (s.sessions.db.sessions.get r.sessionId).any fun session => session.status == .ended

/-- Whether the database and LiveKit may answer a task in this way: queries return what matches them,
new ids are new, and only a running egress can be stopped. -/
def answers (w : World) (s : State) (a : Answer) : Task → Bool
  | .startRunning sessionId _ => takes s (fun r => r.sessionId == sessionId && r.status.isActive) 1 a.rows
  | .startStage .create .. => (s.recordings.get a.id).isNone
  | .startEgress .. => (s.egresses.get a.egressId).isNone && a.egressId != ""
  | .stopFind sessionId organizationId => takes s (fun r =>
      r.sessionId == sessionId && r.organizationId == organizationId && r.status.isActive) 1 a.rows
  | .stopEgress _ _ e => !a.commits || isRunning s e
  | .endedFind => takes s (fun r => r.status.isActive && hasEnded s r) take a.rows
  | .overFind => takes s
      (fun r => r.status.isActive && (w.maxRecordingMinutes r.organizationId).isSome) take a.rows
  | .stuckFind => takes s
      (fun r => r.status.isUnfinished && decide (r.createdAt < a.now - SETTLE_MS)) take a.rows
  | _ => true

inductive Event
  | session (e : Sessions.Event)
  | start (i : Nat) (sessionId : SessionId) (organizationId : OrganizationId)
  | stop (i : Nat) (sessionId : SessionId) (organizationId : OrganizationId)
  /-- The webhook is called with the report of an egress that is over. -/
  | webhook (i : Nat) (egressId : EgressId)
  | tick (i : Nat)
  /-- The call task `i` waits for is answered. -/
  | resume (i : Nat) (a : Answer)
  /-- An egress ends, by itself or after a stop. -/
  | finish (egressId : EgressId) (info : EgressInfo)
  | forget (egressId : EgressId)

def State.goto (s : State) (i : Nat) (t : Option Task) : State := { s with tasks := s.tasks.put i t }

def spawn (s : State) (i : Nat) (t : Task) : Option State :=
  if (s.tasks.get i).isNone then some (s.goto i (some t)) else none

/-- An egress that is not over yet ends with its report. -/
def finished (s : State) (e : EgressId) (info : EgressInfo) : Option State :=
  if (phaseOf s e).any (fun p => p.report.isNone) && info.egressId == e && info.status.finished then
    some { s with egresses := s.egresses.modify e fun g => { g with phase := .closed info } }
  else none

def forgotten (s : State) (e : EgressId) : Option State :=
  match phaseOf s e with
  | some (.closed info) =>
    some { s with egresses := s.egresses.modify e fun g => { g with phase := .forgotten info } }
  | _ => none

def step (w : World) (s : State) : Event → Option State
  | .session e => (Sessions.step w.tzdb s.sessions e).map fun sessions => { s with sessions }
  | .start i sessionId organizationId => spawn s i (.startSession sessionId organizationId)
  | .stop i sessionId organizationId => spawn s i (.stopFind sessionId organizationId)
  | .webhook i e => ((phaseOf s e).bind Phase.report).bind fun info =>
      spawn s i (.applyFind .done (webhookResult info))
  | .tick i => spawn s i .endedFind
  | .resume i a => (s.tasks.get i).bind fun t =>
      if answers w s a t then some (((move w s a t).1.run s).goto i (move w s a t).2) else none
  | .finish e info => finished s e info
  | .forget e => forgotten s e

namespace Example

/-- A workspace whose class is LIVE. -/
def classroom : Sessions.State where
  db :=
    { courses := [Sessions.Example.unscheduled "c" none]
      enrollments := []
      sessions := ⟨[("class", { Sessions.LiveSession.create "c" none 0 (.session "u") with status := .live })],
        by decide⟩ }
  tasks := Pool.empty

def world : World := ⟨fun _ => none, fun _ => none⟩

/-- The answer of a call that succeeds, with nothing found. -/
def answer : Answer where
  reply := .ok
  now := 0
  rows := []
  id := "lesson"
  egressId := "EG_1"
  page := true
  cameraOnly := false
  published := true
  full := false
  size := none
  error := ""

def resumes (i n : Nat) : List Event := List.replicate n (.resume i answer)

/-- Record is pressed, and the recording runs. -/
def recorded : List Event := .start 0 "class" "org" :: resumes 0 9

def statusOfRow (id : RecordingId) (s : State) : Option RecordingStatus :=
  (s.recordings.get id).map (·.status)

end Example

end Livetich.Recordings
