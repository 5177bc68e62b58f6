/-
The rows of a workspace's recordings, LiveKit's report of an egress, and what
`RecordingsService.applyEgressResult` writes once an egress is reported finished.
-/
import Livetich.Model
import Livetich.Js.Number
import Livetich.Lib.Table

namespace Livetich.Recordings

open Livetich.Js Livetich.Lib

abbrev RecordingId := String
abbrev EgressId := String

inductive RecordingStatus
  | starting
  | recording
  | processing
  | ready
  | failed
  deriving DecidableEq, Repr

structure Recording where
  sessionId : SessionId
  organizationId : OrganizationId
  status : RecordingStatus
  egressId : Option EgressId
  storageKey : Option String
  sizeBytes : Option Int
  durationSec : Option Int
  error : Option String
  createdAt : Int
  readyAt : Option Int
  deriving DecidableEq, Repr

abbrev Db := Table RecordingId Recording

/-- Still being filmed: what counts as the one recording of a class. -/
def RecordingStatus.isActive : RecordingStatus → Bool
  | .starting | .recording => true
  | _ => false

/-- Not yet ready and not failed: what the reconciler asks LiveKit about. -/
def RecordingStatus.isUnfinished : RecordingStatus → Bool
  | .starting | .recording | .processing => true
  | _ => false

/-! ## What LiveKit reports -/

inductive EgressStatus
  | starting
  | active
  | ending
  | complete
  | failed
  | aborted
  | limitReached
  deriving DecidableEq, Repr

/-- Anything not finished will be reported again. -/
def EgressStatus.finished (s : EgressStatus) : Bool :=
  s == .complete || s == .failed || s == .aborted || s == .limitReached

/-- One file of an egress: bytes, and nanoseconds of play. -/
structure FileInfo where
  size : Option Int
  duration : Option Int
  deriving DecidableEq, Repr

/-- The fields of an `EgressInfo` that are read, each as LiveKit may leave it out; times are in
nanoseconds. -/
structure EgressInfo where
  egressId : EgressId
  status : EgressStatus
  fileResults : Option (List FileInfo)
  startedAt : Option Int
  endedAt : Option Int
  error : Option String
  deriving DecidableEq, Repr

/-- `info.fileResults?.[0]`. -/
def EgressInfo.file (info : EgressInfo) : Option FileInfo :=
  info.fileResults.bind (·.head?)

/-- `Math.round(Number(nanoseconds) / 1e9)`. -/
def seconds (nanoseconds : Int) : Number :=
  mathRound ((Number.round nanoseconds).divide 1000000000)

/-! ## Writing down a finished egress -/

/-- `status` of `applyEgressResult`'s argument. -/
inductive ResultStatus
  | complete
  | failed
  deriving DecidableEq, Repr

/-- The argument of `applyEgressResult`. -/
structure EgressResult where
  egressId : EgressId
  status : ResultStatus
  sizeBytes : Option Number
  durationSec : Option Number
  error : Option String
  deriving DecidableEq, Repr

/-- How `applyEgressResult` can throw: the object store fails, or a value fits no column. -/
inductive ApplyError
  | storage
  | value
  deriving DecidableEq, Repr

/-- The size of a stored object, if there is such an object; the request itself may fail. -/
abbrev ObjectStorage := String → Except ApplyError (Option Number)

/-- An integer that a column of `bits` bits takes. -/
def column (bits : Nat) (n : Number) : Except ApplyError Int :=
  match n.toInteger with
  | some k => if -2 ^ (bits - 1) ≤ k ∧ k < 2 ^ (bits - 1) then .ok k else .error .value
  | none => .error .value

/-- An absent value is stored as `null`. -/
def nullable (bits : Nat) : Option Number → Except ApplyError (Option Int)
  | none => .ok none
  | some n => (column bits n).map some

/-- The bytes of a finished file: LiveKit's size when it gives one, else the bucket's. -/
def sizeOf (storage : ObjectStorage) (storageKey : Option String) (sizeBytes : Option Number) :
    Except ApplyError (Option Number) :=
  match sizeBytes with
  | some n => .ok (some n)
  | none =>
    match storageKey.filter (· ≠ "") with
    | some key => storage key
    | none => .ok none

/-- `BigInt(Math.round(sizeBytes))`, or `null`, as the `BigInt` column takes it. -/
def storedSize (storage : ObjectStorage) (storageKey : Option String) (sizeBytes : Option Number) :
    Except ApplyError (Option Int) :=
  (sizeOf storage storageKey sizeBytes).bind fun n => nullable 64 (n.map mathRound)

def failedRow (error : Option String) (r : Recording) : Recording :=
  { r with status := .failed, error := some (error.getD "LiveKit reported the recording failed") }

def readyRow (now : Int) (sizeBytes durationSec : Option Int) (r : Recording) : Recording :=
  { r with status := .ready, readyAt := some now, sizeBytes, durationSec, error := none }

/-- The recording an egress id belongs to; the column is unique. -/
def findUnique (db : Db) (egressId : EgressId) : Option (RecordingId × Recording) :=
  db.entries.find? fun e => e.2.egressId == some egressId

/-- What `applyEgressResult` writes to the row it found, or how it throws before it writes. -/
def applied (storage : ObjectStorage) (now : Int) (storageKey : Option String)
    (result : EgressResult) : Except ApplyError (Recording → Recording) :=
  match result.status with
  | .failed => .ok (failedRow result.error)
  | .complete => do
    let sizeBytes ← storedSize storage storageKey result.sizeBytes
    let durationSec ← nullable 32 result.durationSec
    return readyRow now sizeBytes durationSec

def applyEgressResult (storage : ObjectStorage) (now : Int) (db : Db)
    (result : EgressResult) : Except ApplyError Db :=
  match findUnique db result.egressId with
  | none => .ok db
  | some (id, recording) => do
    let write ← applied storage now recording.storageKey result
    return db.modify id write

end Livetich.Recordings
