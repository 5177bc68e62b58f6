/-
The retention sweep: `purgeStoredObjects` and `sweepExpiredRecordings`, under any pattern of failing
storage and database calls.

The calls a sweep makes are numbered in the order it makes them; a world says of each whether it
fails, what the time is, and in which order a query lists its rows. A database call that fails has
changed nothing. What was read and which rows were tried is kept beside the state; no decision reads
either.
-/
import Livetich.Recordings.Model

namespace Livetich.Recordings.Retention

open Livetich.Lib (Table)

/-! ## Data -/

structure Organization where
  id : OrganizationId
  recordingRetentionDays : Option Int

structure World where
  fails : Nat → Bool
  now : Nat → Int
  listed : Nat → List (RecordingId × Recording) → List (RecordingId × Recording)
  perm : ∀ n rows, (listed n rows).Perm rows

/-- The batch read for an organization, by call `call`. -/
structure Batch where
  organization : Organization
  days : Int
  call : Nat
  rows : List (RecordingId × Recording)

structure State where
  recordings : Db
  /-- The keys of the stored objects. -/
  objects : List String
  calls : Nat
  deleted : Nat
  batches : List Batch
  tried : List RecordingId

def dayMs : Int := 24 * 60 * 60 * 1000

/-- `new Date(ms)`, where it is a valid date. -/
def toDate (ms : Int) : Option Int := if -8640000000000000 ≤ ms ∧ ms ≤ 8640000000000000 then some ms else none

/-! ## Deleting one recording -/

def legacyManifestKey (organizationId : OrganizationId) (egressId : EgressId) : String :=
  "recordings/" ++ organizationId ++ "/" ++ egressId ++ ".json"

variable (w : World)

/-- `storage.delete(key).catch(..)`. -/
def deleteObject (s : State) (key : String) : State where
  __ := s
  objects := if w.fails s.calls then s.objects else s.objects.filter (· != key)
  calls := s.calls + 1

def purgeStoredObjects (s : State) (recording : Recording) : State :=
  let s := match recording.storageKey.filter (· != "") with
    | some key => deleteObject w s key
    | none => s
  match recording.egressId.filter (· != "") with
  | some egressId => deleteObject w s (legacyManifestKey recording.organizationId egressId)
  | none => s

/-- `prisma.recording.delete`, which throws where there is no such row. -/
def deleteRow (s : State) (id : RecordingId) : State :=
  if w.fails s.calls || (s.recordings.get id).isNone then { s with calls := s.calls + 1 }
  else { s with
    recordings := s.recordings.filter fun j _ => j != id
    calls := s.calls + 1
    deleted := s.deleted + 1 }

/-- The body of the loop over a batch: what it throws is caught. -/
def sweepRow (s : State) (row : RecordingId × Recording) : State :=
  deleteRow w (purgeStoredObjects w { s with tried := s.tried ++ [row.1] } row.2) row.1

/-! ## The sweep -/

/-- The `where` of `prisma.recording.findMany`. -/
def isExpired (organization : Organization) (cutoff : Int) (row : RecordingId × Recording) : Bool :=
  row.2.organizationId == organization.id && decide (row.2.createdAt < cutoff) && !row.2.status.isActive

/-- `prisma.recording.findMany`; it throws where it fails, and for a cutoff that is no date. -/
def expiredOf (limit : Nat) (s : State) (organization : Organization) (days : Int) :
    Option (List (RecordingId × Recording)) :=
  if w.fails s.calls then none
  else (toDate (w.now s.calls - days * dayMs)).map fun cutoff =>
    (w.listed s.calls (s.recordings.entries.filter (isExpired organization cutoff))).take
      (max 1 (limit - s.deleted))

/-- A batch is read, and its rows are tried one after another. -/
def sweepBatch (s : State) (organization : Organization) (days : Int) (rows : List (RecordingId × Recording)) :
    State :=
  rows.foldl (sweepRow w) { s with
    calls := s.calls + 1
    batches := s.batches ++ [⟨organization, days, s.calls, rows⟩] }

/-- The loop over the organizations: the state after it, and whether it ended without throwing. -/
def sweepOrganizations (limit : Nat) : State → List Organization → State × Bool
  | s, [] => (s, true)
  | s, organization :: organizations =>
    match organization.recordingRetentionDays.filter (0 < ·) with
    | none => sweepOrganizations limit s organizations
    | some days => match expiredOf w limit s organization days with
      | none => ({ s with calls := s.calls + 1 }, false)
      | some rows =>
        let s := sweepBatch w s organization days rows
        if s.deleted ≥ limit then (s, true) else sweepOrganizations limit s organizations

/-- The state after the sweep, and what it returns; `none` where it throws. -/
def sweepExpiredRecordings (limit : Nat) (organizations : List Organization) (recordings : Db)
    (objects : List String) : State × Option Nat :=
  let s : State := ⟨recordings, objects, 1, 0, [], []⟩
  if w.fails 0 then (s, none)
  else
    let r := sweepOrganizations w limit s (organizations.filter (·.recordingRetentionDays.isSome))
    (r.1, if r.2 then some r.1.deleted else none)

/-! ## What a sweep keeps -/

namespace Batch

/-- Every row of the batch is a row there was, of the batch's organization, older than its cutoff when
it was read, and not being made. -/
structure Due (w : World) (organizations : List Organization) (db : Db) (b : Batch) : Prop where
  organization : b.organization ∈ organizations
  retention : b.organization.recordingRetentionDays = some b.days
  positive : 0 < b.days
  rows : ∀ row ∈ b.rows, db.get row.1 = some row.2 ∧ row.2.organizationId = b.organization.id ∧
    row.2.createdAt < w.now b.call - b.days * dayMs ∧ row.2.status ≠ .starting ∧ row.2.status ≠ .recording

def ids (b : Batch) : List RecordingId := b.rows.map (·.1)

end Batch

/-- A row is there as it was, or was in a batch and counted. -/
structure Inv (organizations : List Organization) (db : Db) (s : State) : Prop where
  rows : ∀ id recording, s.recordings.get id = some recording → db.get id = some recording
  count : s.deleted + s.recordings.entries.length = db.entries.length
  gone : ∀ id recording, db.get id = some recording → s.recordings.get id = none →
    ∃ b ∈ s.batches, (id, recording) ∈ b.rows
  batches : ∀ b ∈ s.batches, b.Due w organizations db

/-- Only what is stored, and the count of calls, differ. -/
structure Frame (s s' : State) : Prop where
  recordings : s'.recordings = s.recordings
  deleted : s'.deleted = s.deleted
  batches : s'.batches = s.batches
  tried : s'.tried = s.tried

theorem Frame.refl (s : State) : Frame s s := ⟨rfl, rfl, rfl, rfl⟩

theorem Frame.trans {r s t : State} (h₁ : Frame r s) (h₂ : Frame s t) : Frame r t where
  recordings := h₂.recordings.trans h₁.recordings
  deleted := h₂.deleted.trans h₁.deleted
  batches := h₂.batches.trans h₁.batches
  tried := h₂.tried.trans h₁.tried

variable {w} {organizations : List Organization} {db : Db}

theorem Inv.frame {s s' : State} (h : Inv w organizations db s) (hf : Frame s s') : Inv w organizations db s' where
  rows := by rw [hf.recordings]; exact h.rows
  count := by rw [hf.recordings, hf.deleted]; exact h.count
  gone := by rw [hf.recordings, hf.batches]; exact h.gone
  batches := by rw [hf.batches]; exact h.batches

theorem frame_purgeStoredObjects (w : World) (s : State) (recording : Recording) :
    Frame s (purgeStoredObjects w s recording) := by
  unfold purgeStoredObjects
  have hobject : ∀ (t : State) (key : String), Frame t (deleteObject w t key) := fun _ _ => ⟨rfl, rfl, rfl, rfl⟩
  have hfirst : ∀ key : Option String, Frame s (match key with
      | some key => deleteObject w s key
      | none => s) := by
    intro key
    cases key with
    | none => exact .refl s
    | some key => exact hobject s key
  dsimp only
  split
  · exact (hfirst _).trans (hobject _ _)
  · exact hfirst _

/-- What the deletion of one row does: it fails, or a row of a batch goes and is counted. -/
theorem deleteRow_spec {s : State} (h : Inv w organizations db s) {row : RecordingId × Recording} {b : Batch}
    (hb : b ∈ s.batches) (hrow : row ∈ b.rows) :
    Inv w organizations db (deleteRow w s row.1) ∧ (deleteRow w s row.1).deleted ≤ s.deleted + 1 ∧
      (deleteRow w s row.1).batches = s.batches ∧ (deleteRow w s row.1).tried = s.tried := by
  unfold deleteRow
  split
  · exact ⟨h.frame ⟨rfl, rfl, rfl, rfl⟩, Nat.le_succ _, rfl, rfl⟩
  · rename_i hcall
    refine ⟨?_, le_rfl, rfl, rfl⟩
    simp only [Bool.or_eq_true, Option.isNone_iff_eq_none, not_or] at hcall
    obtain ⟨recording, hget⟩ := Option.ne_none_iff_exists'.1 hcall.2
    have hlength := Table.length_filter_ne hget
    have hcount := h.count
    constructor
    · intro id r hr
      exact h.rows id r (Table.get_filter.1 hr).1
    · show s.deleted + 1 + _ = _
      dsimp only
      omega
    · intro id r hr hnone
      by_cases hid : id = row.1
      · -- the row that goes is the one the batch was read with
        subst hid
        have hdb := ((h.batches b hb).rows row hrow).1
        rw [hr, Option.some.injEq] at hdb
        exact ⟨b, hb, by rw [hdb]; exact hrow⟩
      · refine h.gone id r hr ?_
        rwa [show (s.recordings.filter fun j _ => j != row.1).get id = s.recordings.get id from
          Table.get_filter_of_ne _ hid] at hnone
    · exact h.batches

/-- One row is tried; what it throws goes no further. -/
theorem sweepRow_spec {s : State} (h : Inv w organizations db s) {row : RecordingId × Recording} {b : Batch}
    (hb : b ∈ s.batches) (hrow : row ∈ b.rows) :
    Inv w organizations db (sweepRow w s row) ∧ (sweepRow w s row).deleted ≤ s.deleted + 1 ∧
      (sweepRow w s row).batches = s.batches ∧ (sweepRow w s row).tried = s.tried ++ [row.1] := by
  -- the objects go first, which leaves the rows alone
  have hpurge := frame_purgeStoredObjects w { s with tried := s.tried ++ [row.1] } row.2
  have hinv : Inv w organizations db { s with tried := s.tried ++ [row.1] } := ⟨h.rows, h.count, h.gone, h.batches⟩
  have hrow' := deleteRow_spec (hinv.frame hpurge) (by rw [hpurge.batches]; exact hb) hrow
  rwa [hpurge.deleted, hpurge.batches, hpurge.tried] at hrow'

/-- Each row of a batch is tried, whatever became of those before it. -/
theorem sweepRows_spec {b : Batch} : ∀ {rows : List (RecordingId × Recording)} {s : State},
    Inv w organizations db s → b ∈ s.batches → (∀ row ∈ rows, row ∈ b.rows) →
      Inv w organizations db (rows.foldl (sweepRow w) s) ∧
      (rows.foldl (sweepRow w) s).deleted ≤ s.deleted + rows.length ∧
      (rows.foldl (sweepRow w) s).batches = s.batches ∧
      (rows.foldl (sweepRow w) s).tried = s.tried ++ rows.map (·.1)
  | [], s, h, _, _ => ⟨h, le_rfl, rfl, by simp⟩
  | row :: rows, s, h, hb, hrows => by
    obtain ⟨h₁, hdeleted₁, hbatches₁, htried₁⟩ := sweepRow_spec h hb (hrows row List.mem_cons_self)
    obtain ⟨h₂, hdeleted₂, hbatches₂, htried₂⟩ :=
      sweepRows_spec h₁ (by rw [hbatches₁]; exact hb) fun r hr => hrows r (List.mem_cons_of_mem _ hr)
    rw [List.foldl_cons]
    refine ⟨h₂, ?_, hbatches₂.trans hbatches₁, ?_⟩
    · rw [List.length_cons]
      omega
    · rw [htried₂, htried₁, List.map_cons, List.append_assoc]
      rfl

/-- What a query returns is due, and within the budget. -/
theorem expiredOf_spec {limit : Nat} {s : State} (h : Inv w organizations db s) {organization : Organization}
    {days : Int} {rows : List (RecordingId × Recording)} (horganization : organization ∈ organizations)
    (hdays : organization.recordingRetentionDays = some days) (hpos : 0 < days)
    (hrows : expiredOf w limit s organization days = some rows) :
    (Batch.mk organization days s.calls rows).Due w organizations db ∧ rows.length ≤ max 1 (limit - s.deleted) := by
  unfold expiredOf at hrows
  split at hrows
  · cases hrows
  · obtain ⟨cutoff, hcutoff, rfl⟩ := Option.map_eq_some_iff.1 hrows
    have hdate : w.now s.calls - days * dayMs = cutoff := by
      unfold toDate at hcutoff
      split at hcutoff
      · exact Option.some.inj hcutoff
      · cases hcutoff
    refine ⟨⟨horganization, hdays, hpos, fun row hrow => ?_⟩, List.length_take_le ..⟩
    have hmem := (w.perm _ _).mem_iff.1 (List.mem_of_mem_take hrow)
    obtain ⟨hentry, hexpired⟩ := List.mem_filter.1 hmem
    simp only [isExpired, Bool.and_eq_true, beq_iff_eq, decide_eq_true_eq, Bool.not_eq_true'] at hexpired
    obtain ⟨⟨horg, hold⟩, hactive⟩ := hexpired
    refine ⟨h.rows row.1 row.2 (Table.mem_entries.1 hentry), horg, by rw [hdate]; exact hold, ?_, ?_⟩
    · intro hs
      rw [hs] at hactive
      cases hactive
    · intro hs
      rw [hs] at hactive
      cases hactive

theorem sweepBatch_spec {limit : Nat} {s : State} (h : Inv w organizations db s) {organization : Organization}
    {days : Int} {rows : List (RecordingId × Recording)} (horganization : organization ∈ organizations)
    (hdays : organization.recordingRetentionDays = some days) (hpos : 0 < days)
    (hrows : expiredOf w limit s organization days = some rows) (hlimit : s.deleted < limit)
    (htried : s.tried = s.batches.flatMap Batch.ids) :
    Inv w organizations db (sweepBatch w s organization days rows) ∧
      (sweepBatch w s organization days rows).deleted ≤ limit ∧
      (sweepBatch w s organization days rows).tried =
        (sweepBatch w s organization days rows).batches.flatMap Batch.ids := by
  obtain ⟨hdue, hlength⟩ := expiredOf_spec h horganization hdays hpos hrows
  have hinv : Inv w organizations db { s with
      calls := s.calls + 1
      batches := s.batches ++ [⟨organization, days, s.calls, rows⟩] } := by
    refine ⟨h.rows, h.count, fun id r hr hnone => ?_, fun b hb => ?_⟩
    · obtain ⟨b, hb, hrow⟩ := h.gone id r hr hnone
      exact ⟨b, List.mem_append_left _ hb, hrow⟩
    · rcases List.mem_append.1 hb with hb | hb
      · exact h.batches b hb
      · rw [List.mem_singleton.1 hb]
        exact hdue
  obtain ⟨h', hdeleted, hbatches, htried'⟩ := sweepRows_spec (b := ⟨organization, days, s.calls, rows⟩) hinv
    (List.mem_append_right _ (List.mem_singleton.2 rfl)) fun _ hrow => hrow
  dsimp only at hdeleted htried'
  refine ⟨h', ?_, ?_⟩
  · -- what is left of the budget is the most that was read
    have hbudget : max 1 (limit - s.deleted) = limit - s.deleted := by omega
    unfold sweepBatch
    omega
  · unfold sweepBatch
    rw [htried', hbatches, List.flatMap_append, htried]
    simp [Batch.ids]

/-- The loop keeps the invariant and the budget, and has tried every row of every batch. -/
theorem sweepOrganizations_spec {limit : Nat} : ∀ {rest : List Organization} {s : State},
    Inv w organizations db s → (∀ o ∈ rest, o ∈ organizations) → s.deleted < limit →
      s.tried = s.batches.flatMap Batch.ids →
      Inv w organizations db (sweepOrganizations w limit s rest).1 ∧
      (sweepOrganizations w limit s rest).1.deleted ≤ limit ∧
      (sweepOrganizations w limit s rest).1.tried =
        (sweepOrganizations w limit s rest).1.batches.flatMap Batch.ids
  | [], s, h, _, hlimit, htried => ⟨h, Nat.le_of_lt hlimit, htried⟩
  | organization :: rest, s, h, horganizations, hlimit, htried => by
    have hrest : ∀ o ∈ rest, o ∈ organizations := fun o ho => horganizations o (List.mem_cons_of_mem _ ho)
    unfold sweepOrganizations
    cases hdays : organization.recordingRetentionDays.filter (0 < ·) with
    | none => exact sweepOrganizations_spec h hrest hlimit htried
    | some days =>
      dsimp only
      obtain ⟨hretention, hpos⟩ := Option.filter_eq_some_iff.1 hdays
      cases hrows : expiredOf w limit s organization days with
      | none => exact ⟨h.frame ⟨rfl, rfl, rfl, rfl⟩, by dsimp only; omega, htried⟩
      | some rows =>
        obtain ⟨h', hlimit', htried'⟩ := sweepBatch_spec h (horganizations _ List.mem_cons_self) hretention
          (of_decide_eq_true hpos) hrows hlimit htried
        dsimp only
        split
        · exact ⟨h', hlimit', htried'⟩
        · rename_i hmore
          exact sweepOrganizations_spec h' hrest (by omega) htried'

/-- What a sweep did to the rows there were, given the state after it and what it returned. -/
structure Conservative (w : World) (limit : Nat) (organizations : List Organization) (db : Db)
    (r : State × Option Nat) : Prop where
  limit : (Table.gone db r.1.recordings).length ≤ limit
  /-- Each deleted row was in a batch, and so was due. -/
  due : ∀ row ∈ Table.gone db r.1.recordings, ∃ b ∈ r.1.batches, row ∈ b.rows
  batches : ∀ b ∈ r.1.batches, b.Due w organizations db
  returned : ∀ n, r.2 = some n → n = (Table.gone db r.1.recordings).length
  /-- Every other row is as it was. -/
  unchanged : ∀ id recording, r.1.recordings.get id = some recording → db.get id = some recording
  /-- All rows of all batches were tried, in their order. -/
  tried : r.1.tried = r.1.batches.flatMap Batch.ids

/-- Whatever fails, a sweep with a positive limit is conservative. -/
theorem sweep_conservative (w : World) {limit : Nat} (hlimit : 1 ≤ limit) (organizations : List Organization)
    (db : Db) (objects : List String) :
    Conservative w limit organizations db (sweepExpiredRecordings w limit organizations db objects) := by
  have hstart : Inv w organizations db ⟨db, objects, 1, 0, [], []⟩ := by
    refine ⟨fun _ _ h => h, Nat.zero_add _, fun id r hr hnone => ?_, fun b hb => by cases hb⟩
    rw [show db.get id = none from hnone] at hr
    cases hr
  have hloop := sweepOrganizations_spec hstart
    (fun o (ho : o ∈ organizations.filter (·.recordingRetentionDays.isSome)) => (List.mem_filter.1 ho).1)
    (show 0 < limit from hlimit) rfl
  -- what holds of the state holds of the answer
  have hanswer : ∀ (s : State) (answer : Option Nat), Inv w organizations db s → s.deleted ≤ limit →
      s.tried = s.batches.flatMap Batch.ids → (∀ n, answer = some n → n = s.deleted) →
      Conservative w limit organizations db (s, answer) := by
    intro s answer h hdeleted htried hreturned
    have hgone : (Table.gone db s.recordings).length = s.deleted := by
      have hlength := Table.length_gone h.rows
      have hcount := h.count
      omega
    refine ⟨by rw [hgone]; exact hdeleted, fun row hrow => ?_, h.batches, fun n hn => ?_, h.rows, htried⟩
    · obtain ⟨hdb, hnone⟩ := Table.mem_gone.1 hrow
      exact h.gone _ _ hdb hnone
    · rw [hgone]
      exact hreturned n hn
  unfold sweepExpiredRecordings
  dsimp only
  split
  · exact hanswer _ _ hstart (Nat.zero_le _) rfl fun n hn => by cases hn
  · refine hanswer _ _ hloop.1 hloop.2.1 hloop.2.2 fun n hn => ?_
    split at hn
    · exact (Option.some.inj hn).symm
    · cases hn

namespace Example

/-- A recording made on a day, counted from the first. -/
def made (organizationId : OrganizationId) (status : RecordingStatus) (day : Int) : Recording :=
  ⟨"session", organizationId, status, none, some "video.mp4", none, none, none, day * dayMs, none⟩

def library : Db where
  entries := [("old", made "school" .ready 1), ("failed", made "school" .failed 2),
    ("live", made "school" .recording 3), ("kept", made "archive" .ready 1),
    ("late", made "college" .ready 4), ("later", made "college" .ready 5)]
  nodup := by decide

def schools : List Organization := [⟨"school", some 30⟩, ⟨"archive", none⟩, ⟨"college", some 365⟩]

/-- It is day 1000; the first row cannot be deleted. -/
def world : World := ⟨(· == 3), fun _ => 1000 * dayMs, fun _ rows => rows, fun _ _ => .refl _⟩

end Example

open Example in
/-- Of a school's two rows one stays, so the college's batch has room for one. -/
theorem schools_swept :
    Conservative world 2 schools library (sweepExpiredRecordings world 2 schools library ["video.mp4"]) ∧
    (sweepExpiredRecordings world 2 schools library ["video.mp4"]).2 = some 2 ∧
    (Table.gone library (sweepExpiredRecordings world 2 schools library ["video.mp4"]).1.recordings).map (·.1) =
      ["failed", "late"] :=
  ⟨sweep_conservative world (by decide) schools library _, by decide, by decide⟩

end Livetich.Recordings.Retention
