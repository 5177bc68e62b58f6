/-
A tick of the reconciler with nothing else running: `stopRecordingsForEndedClasses`,
`stopOverrunningRecordings` and the main pass of `reconcile`, each over the first rows that match in the
order the database returns them. LiveKit, the bucket, the sessions and the workspaces' ceilings answer the
same in every tick; the clock is read where the source reads it.
-/
import Livetich.Recordings.Steps
import Livetich.Lib.Window

namespace Livetich.Recordings

open Livetich.Js Livetich.Lib

/-! ## The passes -/

/-- What every tick finds the same. -/
structure Outside where
  livekit : LiveKit
  storage : ObjectStorage
  /-- The session is ENDED. -/
  ended : SessionId → Bool
  maxRecordingMinutes : OrganizationId → Option Int

/-- The times a tick reads: when a row is compared with its ceiling, when the main pass asks for its rows,
and when a row's turn comes in it. -/
structure Clock where
  compared : RecordingId → Int
  asked : Int
  turn : RecordingId → Int

/-- The first rows that match. -/
def findMany (db : Db) (p : Recording → Bool) : List (RecordingId × Recording) :=
  (db.entries.filter fun e => p e.2).take take

/-- Both stop passes, for one row: one without an egress id is skipped, and one whose stop fails stays. -/
def stopRow (o : Outside) (db : Db) (e : RecordingId × Recording) : Db :=
  match truthy e.2.egressId with
  | none => db
  | some egressId =>
    match o.livekit.stopEgress egressId with
    | .ok _ => db.modify e.1 processingRow
    | .error _ => db

def isOfEnded (o : Outside) (r : Recording) : Bool := r.status.isActive && o.ended r.sessionId

def stopRecordingsForEndedClasses (o : Outside) (db : Db) : Db :=
  (findMany db (isOfEnded o)).foldl (stopRow o) db

def isCapped (o : Outside) (r : Recording) : Bool :=
  r.status.isActive && (o.maxRecordingMinutes r.organizationId).isSome

/-- Whether a row has run past its workspace's ceiling. -/
def overruns (o : Outside) (now : Int) (id : RecordingId) (r : Recording) : Bool :=
  overran now ⟨id, r.egressId, r.createdAt, o.maxRecordingMinutes r.organizationId⟩

def stopOverrunningRecordings (o : Outside) (clock : Clock) (db : Db) : Db :=
  (findMany db (isCapped o)).foldl
    (fun db e => if overruns o (clock.compared e.1) e.1 e.2 then stopRow o db e else db) db

def isStuck (clock : Clock) (r : Recording) : Bool :=
  r.status.isUnfinished && decide (r.createdAt < clock.asked - SETTLE_MS)

def mainPass (o : Outside) (clock : Clock) (db : Db) : Db :=
  (findMany db (isStuck clock)).foldl
    (fun db e => reconcileRow o.livekit o.storage (clock.turn e.1) db e.1 e.2) db

def reconcile (o : Outside) (clock : Clock) (db : Db) : Db :=
  mainPass o clock (stopOverrunningRecordings o clock (stopRecordingsForEndedClasses o db))

/-- The rows before the `n`-th tick. -/
def ticks (o : Outside) (clock : Nat → Clock) (db : Db) : Nat → Db
  | 0 => db
  | n + 1 => reconcile o (clock n) (ticks o clock db n)

/-! ## What a tick leaves alone -/

/-- A row without the fields a tick writes. -/
def facts (r : Recording) : Recording :=
  { r with status := .starting, sizeBytes := none, durationSec := none, error := none, readyAt := none }

/-- The rows agree on what a tick does not write. -/
def Same (db db' : Db) : Prop := db'.keys = db.keys ∧ ∀ id, (db'.get id).map facts = (db.get id).map facts

theorem Same.refl (db : Db) : Same db db := ⟨rfl, fun _ => rfl⟩

theorem Same.trans {db db' db'' : Db} (h : Same db db') (h' : Same db' db'') : Same db db'' :=
  ⟨h'.1.trans h.1, fun id => (h'.2 id).trans (h.2 id)⟩

theorem Same.modify {db db' : Db} (h : Same db db') (id : RecordingId) {f : Recording → Recording}
    (hf : ∀ r, facts (f r) = facts r) : Same db (db'.modify id f) := by
  refine ⟨(Table.keys_modify _ _ _).trans h.1, fun j => ?_⟩
  rw [← h.2 j, Table.get_modify]
  split
  · rw [Option.map_map]
    exact congrArg (fun g => (db'.get j).map g) (funext hf)
  · rfl

/-- The column of egress ids is unique. -/
def UniqueEgress (db : Db) : Prop :=
  ∀ id id' r r' e, db.get id = some r → db.get id' = some r' → r.egressId = some e → r'.egressId = some e →
    id = id'

theorem Same.row {db db' : Db} (h : Same db db') {id : RecordingId} {r' : Recording} (hr' : db'.get id = some r') :
    ∃ r, db.get id = some r ∧ facts r' = facts r := by
  have hid := h.2 id
  rw [hr'] at hid
  obtain ⟨r, hr, hfacts⟩ := Option.map_eq_some_iff.1 hid.symm
  exact ⟨r, hr, hfacts.symm⟩

theorem Same.unique {db db' : Db} (h : Same db db') (hu : UniqueEgress db) : UniqueEgress db' := by
  intro id id' r r' e hr hr' he he'
  obtain ⟨q, hq, hf⟩ := h.row hr
  obtain ⟨q', hq', hf'⟩ := h.row hr'
  exact hu id id' q q' e hq hq' ((congrArg Recording.egressId hf).symm.trans he)
    ((congrArg Recording.egressId hf').symm.trans he')

/-! ## What a pass does to a row -/

/-- Whether a predicate holds of a row. -/
def rowIs (db : Db) (p : Recording → Bool) (id : RecordingId) : Bool := (db.get id).any p

theorem mem_findMany {db : Db} {p : Recording → Bool} {e : RecordingId × Recording} (h : e ∈ findMany db p) :
    db.get e.1 = some e.2 :=
  Table.get_of_mem (List.mem_filter.1 (List.mem_of_mem_take h)).1

theorem findMany_keys (db : Db) (p : Recording → Bool) :
    (findMany db p).map (·.1) = window take (rowIs db p) db.keys := by
  unfold findMany window Table.keys
  rw [List.map_take, List.filter_map]
  congr 2
  refine List.filter_congr fun e he => ?_
  show p e.2 = rowIs db p e.1
  unfold rowIs
  rw [Table.get_of_mem he]
  rfl

/-- A loop over distinct rows whose body changes the row at hand changes each of them once. -/
theorem foldl_get {db : Db} {step : Db → RecordingId × Recording → Db} {f : RecordingId → Recording → Recording}
    (hf : ∀ id r, facts (f id r) = facts r) : ∀ {rows : List (RecordingId × Recording)} {db' : Db},
    (rows.map (·.1)).Nodup → Same db db' →
    (∀ db' e, Same db db' → e ∈ rows → step db' e = db'.modify e.1 (f e.1)) →
    Same db (rows.foldl step db') ∧ ∀ id, (rows.foldl step db').get id
      = if id ∈ rows.map (·.1) then (db'.get id).map (f id) else db'.get id
  | [], db', _, hsame, _ => ⟨hsame, fun id => by simp⟩
  | e :: rows, db', hnodup, hsame, hstep => by
    rw [List.foldl_cons, hstep db' e hsame List.mem_cons_self]
    rw [List.map_cons] at hnodup
    obtain ⟨hnot, hnodup⟩ := List.nodup_cons.1 hnodup
    obtain ⟨hsame', hget⟩ := foldl_get hf hnodup (hsame.modify e.1 (hf e.1))
      fun db' q hs hq => hstep db' q hs (List.mem_cons_of_mem _ hq)
    refine ⟨hsame', fun id => ?_⟩
    rw [hget id, List.map_cons]
    by_cases hid : id = e.1
    · subst hid
      rw [if_neg hnot, if_pos List.mem_cons_self, Table.get_modify_self]
    · rw [Table.get_modify_of_ne _ _ hid]
      simp only [List.mem_cons, hid, false_or]

/-- A pass changes the rows of its window, each once. -/
theorem pass_get {db : Db} {p : Recording → Bool} {step : Db → RecordingId × Recording → Db}
    {f : RecordingId → Recording → Recording} (hf : ∀ id r, facts (f id r) = facts r)
    (hstep : ∀ db' e, Same db db' → db.get e.1 = some e.2 → step db' e = db'.modify e.1 (f e.1)) :
    Same db ((findMany db p).foldl step db) ∧ ∀ id, ((findMany db p).foldl step db).get id
      = if id ∈ window take (rowIs db p) db.keys then (db.get id).map (f id) else db.get id := by
  have hnodup : ((findMany db p).map (·.1)).Nodup := by
    rw [findMany_keys]
    exact (db.nodup.sublist List.filter_sublist).sublist (List.take_sublist _ _)
  have h := foldl_get hf hnodup (Same.refl db) fun db' e hs he => hstep db' e hs (mem_findMany he)
  rw [findMany_keys] at h
  exact h

/-- LiveKit accepts to stop the row's egress. -/
def accepts (o : Outside) (r : Recording) : Bool :=
  (truthy r.egressId).any fun e => (o.livekit.stopEgress e).toBool

def stopped (o : Outside) (r : Recording) : Recording := if accepts o r then processingRow r else r

theorem accepts_facts {o : Outside} {r r' : Recording} (h : facts r = facts r') : accepts o r = accepts o r' := by
  show accepts o (facts r) = accepts o (facts r')
  rw [h]

theorem stopped_facts (o : Outside) (r : Recording) : facts (stopped o r) = facts r := by
  unfold stopped
  split <;> rfl

theorem stopRow_eq {o : Outside} {db db' : Db} (hs : Same db db') {e : RecordingId × Recording}
    (he : db.get e.1 = some e.2) : stopRow o db' e = db'.modify e.1 (stopped o) := by
  have hcongr : ∀ r, db'.get e.1 = some r → accepts o r = accepts o e.2 := by
    intro r hr
    obtain ⟨q, hq, hfacts⟩ := hs.row hr
    rw [he] at hq
    cases hq
    exact accepts_facts hfacts
  have hkeep : accepts o e.2 = false → db'.modify e.1 (stopped o) = db' := by
    intro hno
    rw [Table.modify_congr (g := id), Table.modify_id]
    intro r hr
    exact if_neg (by rw [hcongr r hr, hno]; simp)
  unfold stopRow
  split
  · rename_i hnone
    exact (hkeep (by unfold accepts; rw [hnone]; rfl)).symm
  · rename_i egressId hsome
    split
    · rename_i hok
      refine Table.modify_congr fun r hr => (if_pos ?_).symm
      rw [hcongr r hr]
      unfold accepts
      rw [hsome]
      show (o.livekit.stopEgress egressId).toBool = true
      rw [hok]
      rfl
    · rename_i herror
      refine (hkeep ?_).symm
      unfold accepts
      rw [hsome]
      show (o.livekit.stopEgress egressId).toBool = false
      rw [herror]
      rfl

theorem ended_get (o : Outside) (db : Db) : Same db (stopRecordingsForEndedClasses o db) ∧
    ∀ id, (stopRecordingsForEndedClasses o db).get id
      = if id ∈ window take (rowIs db (isOfEnded o)) db.keys then (db.get id).map (stopped o) else db.get id :=
  pass_get (f := fun _ => stopped o) (fun _ => stopped_facts o) fun _ _ hs he => stopRow_eq hs he

/-- What the pass over ceilings does to a row. -/
def capped (o : Outside) (clock : Clock) (id : RecordingId) (r : Recording) : Recording :=
  if overruns o (clock.compared id) id r then stopped o r else r

theorem over_get (o : Outside) (clock : Clock) (db : Db) : Same db (stopOverrunningRecordings o clock db) ∧
    ∀ id, (stopOverrunningRecordings o clock db).get id
      = if id ∈ window take (rowIs db (isCapped o)) db.keys then (db.get id).map (capped o clock id)
        else db.get id := by
  refine pass_get (f := capped o clock) (fun id r => ?_) fun db' e hs he => ?_
  · unfold capped
    split
    · exact stopped_facts o r
    · rfl
  · have hsame : ∀ r, db'.get e.1 = some r →
        overruns o (clock.compared e.1) e.1 r = overruns o (clock.compared e.1) e.1 e.2 := by
      intro r hr
      obtain ⟨q, hq, hfacts⟩ := hs.row hr
      rw [he] at hq
      cases hq
      show overruns o (clock.compared e.1) e.1 (facts r) = overruns o (clock.compared e.1) e.1 (facts e.2)
      rw [hfacts]
    split
    · rename_i hover
      rw [stopRow_eq hs he]
      exact Table.modify_congr fun r hr => (if_pos ((hsame r hr).trans hover)).symm
    · rename_i hover
      symm
      rw [Table.modify_congr (g := id), Table.modify_id]
      exact fun r hr => if_neg fun h => hover ((hsame r hr).symm.trans h)

/-- What the main pass does to a row. -/
def settled (o : Outside) (now : Int) (r : Recording) : Recording :=
  match truthy r.egressId with
  | none => erroredRow "Recording never started" r
  | some e =>
    match describe o.livekit e with
    | .error _ => r
    | .ok none =>
      if ABANDON_MS < now - r.createdAt then erroredRow "LiveKit has no record of this recording" r else r
    | .ok (some info) =>
      if info.finished then change (applied o.storage now r.storageKey (pulledResult e info)) r else r

theorem change_facts {storage : ObjectStorage} {now : Int} {key : Option String} {result : EgressResult}
    (r : Recording) : facts (change (applied storage now key result) r) = facts r := by
  cases h : applied storage now key result with
  | error e => rfl
  | ok f =>
    show facts (f r) = facts r
    unfold applied at h
    cases hst : result.status with
    | failed =>
      rw [hst] at h
      cases h
      rfl
    | complete =>
      rw [hst] at h
      simp only [bind, Except.bind] at h
      split at h
      · cases h
      · split at h
        · cases h
        · cases h
          rfl

theorem settled_facts (o : Outside) (now : Int) (r : Recording) : facts (settled o now r) = facts r := by
  unfold settled
  split
  · rfl
  · split
    · rfl
    · split <;> rfl
    · split
      · exact change_facts r
      · rfl

theorem findUnique_of {db : Db} (hu : UniqueEgress db) {id : RecordingId} {r : Recording} {e : EgressId}
    (hr : db.get id = some r) (he : r.egressId = some e) : findUnique db e = some (id, r) := by
  have hsome : (findUnique db e).isSome = true :=
    List.find?_isSome.2 ⟨(id, r), Table.mem_of_get hr, by simp [he]⟩
  obtain ⟨⟨id', r'⟩, hfind⟩ := Option.isSome_iff_exists.1 hsome
  obtain ⟨hr', he'⟩ := get_of_findUnique hfind
  have hid := hu id id' r r' e hr hr' he he'
  subst hid
  rw [hr] at hr'
  cases hr'
  exact hfind

theorem reconcileRow_eq {o : Outside} {now : Int} {db db' : Db} (hu : UniqueEgress db) (hs : Same db db')
    {e : RecordingId × Recording} (he : db.get e.1 = some e.2) :
    reconcileRow o.livekit o.storage now db' e.1 e.2 = db'.modify e.1 (settled o now) := by
  obtain ⟨r, hr⟩ : ∃ r, db'.get e.1 = some r := by
    have hid := hs.2 e.1
    rw [he] at hid
    obtain ⟨r, hr, -⟩ := Option.map_eq_some_iff.1 hid
    exact ⟨r, hr⟩
  obtain ⟨q, hq, hfacts⟩ := hs.row hr
  rw [he] at hq
  cases hq
  have hegress : e.2.egressId = r.egressId := (congrArg Recording.egressId hfacts).symm
  have hcreated : e.2.createdAt = r.createdAt := (congrArg Recording.createdAt hfacts).symm
  have hwrite : ∀ f : Recording → Recording, f r = settled o now r →
      db'.modify e.1 f = db'.modify e.1 (settled o now) := by
    intro f hf
    refine Table.modify_congr fun r' hr' => ?_
    rw [hr] at hr'
    cases hr'
    exact hf
  have hkeep : settled o now r = r → db' = db'.modify e.1 (settled o now) := fun h =>
    (Table.modify_id db' e.1).symm.trans (hwrite id h.symm)
  unfold reconcileRow
  rw [hegress, hcreated]
  cases ht : truthy r.egressId with
  | none =>
    refine hwrite _ ?_
    unfold settled
    rw [ht]
    rfl
  | some egressId =>
    simp only
    cases hd : describe o.livekit egressId with
    | error err =>
      refine hkeep ?_
      unfold settled
      simp only [ht, hd]
    | ok answer =>
      cases answer with
      | none =>
        simp only
        split
        · rename_i hold
          refine hwrite _ ?_
          unfold settled
          simp only [ht, hd]
          exact (if_pos hold).symm
        · rename_i hold
          refine hkeep ?_
          unfold settled
          simp only [ht, hd]
          exact if_neg hold
      | some info =>
        simp only
        split
        · rename_i hfin
          have hfind := findUnique_of (hs.unique hu) hr (truthy_eq_some.1 ht).1
          rw [@applyEgressResult_change _ (pulledResult egressId info) _ _ hfind]
          refine hwrite _ ?_
          unfold settled
          simp only [ht, hd]
          exact (if_pos hfin).symm
        · rename_i hfin
          refine hkeep ?_
          unfold settled
          simp only [ht, hd]
          exact if_neg hfin

theorem main_get (o : Outside) (clock : Clock) {db : Db} (hu : UniqueEgress db) :
    Same db (mainPass o clock db) ∧ ∀ id, (mainPass o clock db).get id
      = if id ∈ window take (rowIs db (isStuck clock)) db.keys then (db.get id).map (settled o (clock.turn id))
        else db.get id :=
  pass_get (f := fun id => settled o (clock.turn id)) (fun id => settled_facts o (clock.turn id))
    fun _ _ hs he => reconcileRow_eq hu hs he

end Livetich.Recordings
