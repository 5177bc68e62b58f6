/-
The two ways LiveKit's report of an egress reaches its recording: pushed, by the webhook
(`LivekitWebhookController.handle`), and pulled, by the reconciler
(`RecordingEgressService.describe` and the body of `reconcile`'s loop).
-/
import Livetich.Recordings.Model

namespace Livetich.Recordings

open Livetich.Js Livetich.Lib

/-- A JavaScript string that counts as given: `x || undefined`. -/
def truthy (x : Option String) : Option String := x.filter (· ≠ "")

theorem truthy_eq_some {x : Option String} {e : String} : truthy x = some e ↔ x = some e ∧ e ≠ "" := by
  unfold truthy
  rw [Option.filter_eq_some_iff]
  simp

/-- A `bigint` field that is present and not zero. -/
def nonzero (x : Option Int) : Option Int := x.filter (· ≠ 0)

/-! ## Pushed -/

structure WebhookEvent where
  event : String
  egressInfo : Option EgressInfo

/-- What `handle` passes on of a finished egress. -/
def webhookResult (info : EgressInfo) : EgressResult where
  egressId := info.egressId
  status := if info.status = .complete then .complete else .failed
  sizeBytes := (info.file.bind (·.size)).map fun size => .round size
  durationSec := (info.file.bind (·.duration)).map seconds
  error := truthy info.error

/-- `handle`, once the signature of the call is verified. -/
def handle (storage : ObjectStorage) (now : Int) (db : Db) (event : WebhookEvent) :
    Except ApplyError Db :=
  if event.event ≠ "egress_ended" ∧ event.event ≠ "egress_updated" then .ok db
  else
    match event.egressInfo with
    | none => .ok db
    | some info =>
      if info.egressId = "" then .ok db
      else if info.status.finished then applyEgressResult storage now db (webhookResult info)
      else .ok db

/-! ## Pulled -/

/-- A failed call to LiveKit, by its Twirp code. -/
inductive TwirpError
  | notFound
  | other (code : String)
  deriving DecidableEq, Repr

/-- What the reconciler asks LiveKit. -/
structure LiveKit where
  listEgress : EgressId → Except TwirpError (List EgressInfo)
  stopEgress : EgressId → Except TwirpError Unit

/-- What `describe` answers of an egress that LiveKit knows. -/
structure Described where
  finished : Bool
  complete : Bool
  sizeBytes : Option Number
  durationSec : Option Number
  error : Option String
  deriving DecidableEq, Repr

/-- How long the egress itself ran, when both ends are stamped. -/
def ranFor (info : EgressInfo) : Option Number :=
  (nonzero info.startedAt).bind fun start => (nonzero info.endedAt).map fun stop => seconds (stop - start)

def described (info : EgressInfo) : Described where
  finished := info.status.finished
  complete := info.status = .complete
  sizeBytes := (info.file.bind (·.size)).map fun size => .round size
  durationSec := ((info.file.bind (·.duration)).map seconds).or (ranFor info)
  error := (truthy info.error).or
    (if info.status = .aborted then some "LiveKit aborted the recording" else none)

/-- LiveKit answers an unknown egress by throwing, not by an empty list; every other error is
thrown on. -/
def describe (livekit : LiveKit) (egressId : EgressId) : Except TwirpError (Option Described) :=
  match livekit.listEgress egressId with
  | .ok (info :: _) => .ok (some (described info))
  | .ok [] => .ok none
  | .error .notFound => .ok none
  | .error e => .error e

/-- The argument the reconciler gives `applyEgressResult`. -/
def pulledResult (egressId : EgressId) (info : Described) : EgressResult where
  egressId
  status := if info.complete then .complete else .failed
  sizeBytes := info.sizeBytes
  durationSec := info.durationSec
  error := info.error

def ABANDON_MS : Int := 6 * 60 * 60 * 1000

/-- `fail` of the reconciler. -/
def fail (db : Db) (id : RecordingId) (error : String) : Db :=
  db.modify id fun r => { r with status := .failed, error := some error }

/-- The body of `reconcile`'s loop, for a row as it was read; what it throws is caught there. -/
def reconcileRow (livekit : LiveKit) (storage : ObjectStorage) (now : Int) (db : Db)
    (id : RecordingId) (recording : Recording) : Db :=
  match truthy recording.egressId with
  | none => fail db id "Recording never started"
  | some egressId =>
    match describe livekit egressId with
    | .error _ => db
    | .ok none =>
      if ABANDON_MS < now - recording.createdAt then
        fail db id "LiveKit has no record of this recording"
      else db
    | .ok (some info) =>
      if info.finished then
        match applyEgressResult storage now db (pulledResult egressId info) with
        | .ok db => db
        | .error _ => db
      else db

/-! ## Both ways -/

/-- What a gallery shows of a recording. -/
structure Outcome where
  status : RecordingStatus
  sizeBytes : Option Int
  durationSec : Option Int
  error : Option String
  deriving DecidableEq, Repr

def outcome (r : Recording) : Outcome := ⟨r.status, r.sizeBytes, r.durationSec, r.error⟩

def outcomes (db : Db) : List (RecordingId × Outcome) :=
  db.entries.map fun e => (e.1, outcome e.2)

/-- The rows after a webhook call; one that throws leaves them as they were. -/
def pushed (storage : ObjectStorage) (now : Int) (db : Db) (event : WebhookEvent) : Db :=
  match handle storage now db event with
  | .ok db => db
  | .error _ => db

/-- Whether the size of a finished file can be written down. -/
def sizeKnown (storage : ObjectStorage) (storageKey : Option String) (info : EgressInfo) : Prop :=
  ∃ size, storedSize storage storageKey ((info.file.bind (·.size)).map fun size => .round size) = .ok size

/-- When the two ways agree on a report. -/
structure Agree (storage : ObjectStorage) (storageKey : Option String) (info : EgressInfo) : Prop where
  egressId : info.egressId ≠ ""
  aborted : info.status = .aborted → truthy info.error ≠ none
  complete : info.status = .complete → info.file.bind (·.duration) = none →
    nonzero info.startedAt = none ∨ nonzero info.endedAt = none ∨ ¬ sizeKnown storage storageKey info

/-- The change a result makes to its row; none when it throws. -/
def change (w : Except ApplyError (Recording → Recording)) : Recording → Recording :=
  match w with
  | .ok f => f
  | .error _ => id

theorem get_of_findUnique {db : Db} {e : EgressId} {id : RecordingId} {r : Recording}
    (h : findUnique db e = some (id, r)) : db.get id = some r ∧ r.egressId = some e := by
  have hmem := List.mem_of_find?_eq_some h
  have hid := List.find?_some h
  exact ⟨Table.get_of_mem hmem, by simpa using hid⟩

theorem applyEgressResult_change {db : Db} {result : EgressResult} {id : RecordingId} {r : Recording}
    (h : findUnique db result.egressId = some (id, r)) (storage : ObjectStorage) (now : Int) :
    (match applyEgressResult storage now db result with | .ok db => db | .error _ => db)
      = db.modify id (change (applied storage now r.storageKey result)) := by
  unfold applyEgressResult
  rw [h]
  show (match (applied storage now r.storageKey result >>= fun write => pure (db.modify id write) :
    Except ApplyError Db) with | .ok db => db | .error _ => db) = _
  cases applied storage now r.storageKey result with
  | error e => exact (Table.modify_id db id).symm
  | ok f => rfl

/-- Two changes of one row show the same if and only if they show the same of that row. -/
theorem outcomes_modify {db : Db} {id : RecordingId} {r : Recording} (h : db.get id = some r)
    (f g : Recording → Recording) :
    outcomes (db.modify id f) = outcomes (db.modify id g) ↔ outcome (f r) = outcome (g r) := by
  unfold outcomes
  rw [Table.entries_modify, Table.entries_modify, List.map_map, List.map_map, List.map_inj_left]
  constructor
  · intro hall
    have := hall (id, r) (Table.mem_of_get h)
    simpa using this
  · rintro heq ⟨j, q⟩ hq
    by_cases hj : j = id
    · subst hj
      have := Table.get_of_mem hq
      rw [h] at this
      cases this
      simp [heq]
    · simp [hj]

theorem pushed_eq {db : Db} {info : EgressInfo} {id : RecordingId} {r : Recording} {kind : String}
    (hkind : kind = "egress_ended" ∨ kind = "egress_updated")
    (hrow : findUnique db info.egressId = some (id, r)) (hne : info.egressId ≠ "")
    (hfin : info.status.finished = true) (storage : ObjectStorage) (now : Int) :
    pushed storage now db ⟨kind, some info⟩
      = db.modify id (change (applied storage now r.storageKey (webhookResult info))) := by
  have hevent : ¬(kind ≠ "egress_ended" ∧ kind ≠ "egress_updated") := by
    rintro ⟨h₁, h₂⟩
    exact hkind.elim h₁ h₂
  have hhandle : handle storage now db ⟨kind, some info⟩
      = applyEgressResult storage now db (webhookResult info) := by
    unfold handle
    simp only [if_neg hevent, if_neg hne, hfin, if_true]
  unfold pushed
  rw [hhandle]
  exact @applyEgressResult_change db (webhookResult info) id r hrow storage now

theorem pulled_eq {db : Db} {info : EgressInfo} {rest : List EgressInfo} {id : RecordingId}
    {r : Recording} {livekit : LiveKit} (hrow : findUnique db info.egressId = some (id, r))
    (hne : info.egressId ≠ "") (hfin : info.status.finished = true)
    (hlist : livekit.listEgress info.egressId = .ok (info :: rest)) (storage : ObjectStorage) (now : Int) :
    reconcileRow livekit storage now db id r
      = db.modify id (change
          (applied storage now r.storageKey (pulledResult info.egressId (described info)))) := by
  have htruthy : truthy r.egressId = some info.egressId := by
    rw [(get_of_findUnique hrow).2]
    simp [truthy, hne]
  have hdescribe : describe livekit info.egressId = .ok (some (described info)) := by
    unfold describe
    rw [hlist]
  have hfinished : (described info).finished = true := hfin
  unfold reconcileRow
  rw [htruthy]
  simp only [hdescribe, hfinished, if_true]
  exact @applyEgressResult_change db (pulledResult info.egressId (described info)) id r hrow storage now

/-- A failed egress shows the error the result carries, whatever else it carries. -/
theorem outcome_failed {storage : ObjectStorage} {now : Int} {key : Option String}
    {result : EgressResult} (h : result.status = .failed) (r : Recording) :
    outcome (change (applied storage now key result) r) = ⟨.failed, r.sizeBytes, r.durationSec,
      some (result.error.getD "LiveKit reported the recording failed")⟩ := by
  unfold applied
  rw [h]
  rfl

theorem applied_complete {storage : ObjectStorage} {now : Int} {key : Option String}
    {result : EgressResult} (h : result.status = .complete) {size : Option Int}
    (hsize : storedSize storage key result.sizeBytes = .ok size) :
    applied storage now key result
      = (nullable 32 result.durationSec).bind fun d => .ok (readyRow now size d) := by
  unfold applied
  rw [h]
  show (storedSize storage key result.sizeBytes >>= _) = _
  rw [hsize]
  rfl

/-- A finished file whose size cannot be written down changes nothing. -/
theorem change_of_not_sizeKnown {storage : ObjectStorage} {now : Int} {key : Option String}
    {result : EgressResult} (h : result.status = .complete)
    (hsize : ∀ size, storedSize storage key result.sizeBytes ≠ .ok size) :
    change (applied storage now key result) = id := by
  unfold applied
  rw [h]
  show change (storedSize storage key result.sizeBytes >>= _) = _
  cases hs : storedSize storage key result.sizeBytes with
  | error e => rfl
  | ok size => exact absurd hs (hsize size)

theorem ranFor_eq_none {info : EgressInfo} :
    ranFor info = none ↔ nonzero info.startedAt = none ∨ nonzero info.endedAt = none := by
  unfold ranFor
  cases nonzero info.startedAt with
  | none => simp
  | some start => simp

/-- A report of a failed egress is written down alike, unless LiveKit aborted it without an error. -/
theorem failed_agree {storage : ObjectStorage} {info : EgressInfo} (h : info.status ≠ .complete)
    (key : Option String) (now now' : Int) (r : Recording) :
    outcome (change (applied storage now key (webhookResult info)) r)
        = outcome (change (applied storage now' key (pulledResult info.egressId (described info))) r)
      ↔ (info.status = .aborted → truthy info.error ≠ none) := by
  have hpush : (webhookResult info).status = .failed := if_neg h
  have hpull : (pulledResult info.egressId (described info)).status = .failed := by
    simp [pulledResult, described, h]
  rw [outcome_failed hpush, outcome_failed hpull]
  show Outcome.mk _ _ _ (some ((truthy info.error).getD _)) = ⟨_, _, _, some (((truthy info.error).or
    (if info.status = .aborted then some "LiveKit aborted the recording" else none)).getD _)⟩ ↔ _
  by_cases habort : info.status = .aborted
  · rw [if_pos habort]
    cases truthy info.error with
    | none => simp [habort]
    | some e => simp
  · rw [if_neg habort]
    cases truthy info.error with
    | none => simp [habort]
    | some e => simp [habort]

/-- A report of a complete egress is written down alike when both ways give it the same duration, and
when its size keeps it from being written at all. -/
theorem complete_agree {storage : ObjectStorage} {info : EgressInfo} {key : Option String}
    (h : info.status = .complete) (now now' : Int) {r : Recording} (hr : r.status ≠ .ready) :
    outcome (change (applied storage now key (webhookResult info)) r)
        = outcome (change (applied storage now' key (pulledResult info.egressId (described info))) r)
      ↔ (info.file.bind (·.duration) = none →
          nonzero info.startedAt = none ∨ nonzero info.endedAt = none ∨ ¬ sizeKnown storage key info) := by
  have hpush : (webhookResult info).status = .complete := if_pos h
  have hpull : (pulledResult info.egressId (described info)).status = .complete := by
    simp [pulledResult, described, h]
  by_cases hsize : sizeKnown storage key info
  · obtain ⟨size, hsize'⟩ := hsize
    rw [applied_complete hpush hsize', applied_complete hpull hsize']
    show outcome (change (((nullable 32 ((info.file.bind (·.duration)).map seconds)).bind _)) r)
      = outcome (change ((nullable 32 (((info.file.bind (·.duration)).map seconds).or (ranFor info))).bind _) r)
        ↔ _
    cases hd : info.file.bind (·.duration) with
    | some d =>
      -- both ways read the duration of the file
      simp only [Option.map_some, Option.some_or, reduceCtorEq, IsEmpty.forall_iff, iff_true]
      cases nullable 32 (some (seconds d)) with
      | error e => rfl
      | ok d => rfl
    | none =>
      simp only [Option.map_none, Option.none_or, forall_const]
      rw [← or_assoc, ← ranFor_eq_none]
      have hknown : ¬¬ sizeKnown storage key info := fun hn => hn ⟨size, hsize'⟩
      cases hran : ranFor info with
      | none => simp [nullable, Except.bind, change, outcome, readyRow]
      | some n =>
        -- only the pulled report has a duration, or one that no column takes
        simp only [hknown, reduceCtorEq, or_self, iff_false]
        cases hcol : column 32 n with
        | error e =>
          simp only [nullable, hcol, Except.bind, Except.map, change, outcome, readyRow, id]
          intro heq
          exact hr (congrArg Outcome.status heq).symm
        | ok k => simp [nullable, hcol, Except.bind, Except.map, change, outcome, readyRow]
  · have hnot : ∀ size, storedSize storage key
        ((info.file.bind (·.size)).map fun size => .round size) ≠ .ok size := by
      intro size hs
      exact hsize ⟨size, hs⟩
    rw [change_of_not_sizeKnown hpush hnot, change_of_not_sizeKnown hpull hnot]
    simp [hsize]

namespace Example

/-- A recording stopped by hand, which LiveKit has yet to report on. -/
def lesson : Recording where
  sessionId := "class"
  organizationId := "school"
  status := .processing
  egressId := some "EG_1"
  storageKey := some "rec/school/lesson.mp4"
  sizeBytes := none
  durationSec := none
  error := none
  createdAt := 0
  readyAt := none

def gallery : Db := ⟨[("lesson", lesson)], by decide⟩

/-- A report of the lesson's egress, of an hour from its start to its end. -/
def report (status : EgressStatus) (duration : Option Int) : EgressInfo where
  egressId := "EG_1"
  status
  fileResults := some [⟨some 1000, duration⟩]
  startedAt := some 1000000000
  endedAt := some 3601000000000
  error := none

def bucket : ObjectStorage := fun _ => .ok none

/-- LiveKit when all it knows is one egress. -/
def knows (info : EgressInfo) : LiveKit where
  listEgress := fun e => if e = info.egressId then .ok [info] else .error .notFound
  stopEgress := fun _ => .ok ()

/-- The file's own duration is reported. -/
def timed : EgressInfo := report .complete (some 3599000000000)

/-- The file's duration is left unset. -/
def untimed : EgressInfo := report .complete none

end Example

end Livetich.Recordings
