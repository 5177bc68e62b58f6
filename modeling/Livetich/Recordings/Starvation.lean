/-
When the reconciler reaches every row. Each pass takes the first rows that match, and rows it can do
nothing about stay at the front of the next tick's window; a row is reached in the end if and only if
fewer such rows than a window holds come before it.
-/
import Livetich.Recordings.Invariants
import Livetich.Recordings.Tick
import Mathlib.Order.Filter.AtTopBot.Basic
import Mathlib.Order.Filter.Finite

namespace Livetich.Recordings

open Livetich.Js Livetich.Lib

/-! ## Rows a pass can do nothing about -/

def isOpen (r : Recording) : Bool := r.status.isUnfinished

def isFilming (r : Recording) : Bool := r.status.isActive

/-- The main pass never finishes the row: its egress goes on, LiveKit's answer is an error, or the result
cannot be written down. -/
def blocks (o : Outside) (r : Recording) : Bool :=
  match truthy r.egressId with
  | none => false
  | some e =>
    match describe o.livekit e with
    | .error _ => true
    | .ok none => false
    | .ok (some info) => !info.finished || !(applied o.storage 0 r.storageKey (pulledResult e info)).toBool

/-- LiveKit reports the row's egress finished. -/
def reported (o : Outside) (r : Recording) : Bool :=
  (truthy r.egressId).any fun e => match describe o.livekit e with
    | .ok (some info) => info.finished
    | _ => false

/-- The workspace has a ceiling that can be run past. -/
def limited (o : Outside) (r : Recording) : Bool := (o.maxRecordingMinutes r.organizationId).any (0 < ·)

/-- An unfinished row that the main pass never finishes, or never comes to. -/
def kept (o : Outside) (db : Db) (id : RecordingId) : Bool :=
  rowIs db isOpen id && (rowIs db (blocks o) id ||
    decide (take ≤ (before db.keys id).countP (rowIs db fun r => isOpen r && blocks o r)))

/-- A row of an ended class that stays at the front of the pass over such rows. -/
def heldEnded (o : Outside) (db : Db) (id : RecordingId) : Bool :=
  rowIs db (isOfEnded o) id && !rowIs db (accepts o) id && kept o db id

/-- The pass over ended classes never comes to the row. -/
def missedEnded (o : Outside) (db : Db) (id : RecordingId) : Bool :=
  !rowIs db (fun r => o.ended r.sessionId) id ||
    decide (take ≤ (before db.keys id).countP (heldEnded o db))

/-- A row under a ceiling that stays at the front of the pass over ceilings. -/
def heldCapped (o : Outside) (db : Db) (id : RecordingId) : Bool :=
  rowIs db (isCapped o) id && kept o db id &&
    (!rowIs db (accepts o) id || (!rowIs db (limited o) id && missedEnded o db id))

/-- The pass over ceilings never comes to the row. -/
def missedCapped (o : Outside) (db : Db) (id : RecordingId) : Bool :=
  decide (take ≤ (before db.keys id).countP (heldCapped o db))

/-- A row that is never dealt with: one whose egress LiveKit reports finished, or one that runs past its
ceiling although LiveKit would stop it. -/
def starves (o : Outside) (db : Db) (id : RecordingId) : Bool :=
  kept o db id && (rowIs db (reported o) id ||
    (rowIs db isFilming id && rowIs db (accepts o) id && rowIs db (limited o) id && missedEnded o db id &&
      missedCapped o db id))

/-- No row starves. -/
def reachesAll (o : Outside) (db : Db) : Bool := db.keys.all fun id => !starves o db id

/-! ## What is to be reached -/

/-- Nothing old is left: no row whose egress is reported finished is unfinished, and no row past its
ceiling that LiveKit would stop is still being filmed. -/
def NothingLeft (o : Outside) (clock : Clock) (db : Db) : Prop :=
  ∀ id r, db.get id = some r →
    (r.createdAt < clock.asked - SETTLE_MS → reported o r = true → isOpen r = false) ∧
    (overruns o (clock.compared id) id r = true → accepts o r = true → isFilming r = false)

def Clock.After (clock : Clock) (t : Int) : Prop :=
  t ≤ clock.asked ∧ ∀ id, t ≤ clock.compared id ∧ t ≤ clock.turn id

/-- Time goes on for ever. -/
def Unbounded (clock : Nat → Clock) : Prop := ∀ t, ∃ N, ∀ n, N ≤ n → (clock n).After t

/-- Every row is past the settle time, the time LiveKit is given, and its ceiling. -/
def Late (o : Outside) (db : Db) (clock : Clock) : Prop :=
  ∀ id r, db.get id = some r → r.createdAt < clock.asked - SETTLE_MS ∧
    ABANDON_MS < clock.turn id - r.createdAt ∧ (limited o r = true → overruns o (clock.compared id) id r = true)

theorem Late.same {o : Outside} {db db' : Db} {clock : Clock} (h : Late o db clock) (hs : Same db db') :
    Late o db' clock := by
  intro id r hr
  obtain ⟨q, hq, hf⟩ := hs.row hr
  obtain ⟨hsettle, habandon, hover⟩ := h id q hq
  have hcreated : (facts r).createdAt = (facts q).createdAt := congrArg Recording.createdAt hf
  show (facts r).createdAt < _ ∧ _ < _ - (facts r).createdAt ∧ _
  rw [hcreated]
  refine ⟨hsettle, habandon, fun hl => ?_⟩
  have hlimited : limited o (facts q) = true := hf ▸ hl
  show overruns o (clock.compared id) id (facts r) = true
  rw [hf]
  exact hover hlimited

/-- From some time on every row is late. -/
theorem exists_late (o : Outside) (db : Db) : ∃ t, ∀ clock : Clock, clock.After t → Late o db clock := by
  have hrows : ∀ᶠ t in Filter.atTop, ∀ e ∈ {e | e ∈ db.entries}, e.2.createdAt < t - SETTLE_MS ∧
      ABANDON_MS < t - e.2.createdAt ∧ (limited o e.2 = true → overruns o t e.1 e.2 = true) := by
    refine (Filter.eventually_all_finite (List.finite_toSet _)).2 fun e _ => Filter.eventually_atTop.2 ?_
    refine ⟨e.2.createdAt + SETTLE_MS + ABANDON_MS + 1 +
      max 0 (((o.maxRecordingMinutes e.2.organizationId).getD 0) * 60000), fun t ht => ?_⟩
    simp only [SETTLE_MS, ABANDON_MS] at ht ⊢
    refine ⟨by omega, by omega, fun hl => ?_⟩
    unfold limited at hl
    unfold overruns overran
    cases hcap : o.maxRecordingMinutes e.2.organizationId with
    | none =>
      rw [hcap] at hl
      cases hl
    | some cap =>
      rw [hcap] at hl ht
      simp only [Option.any_some, decide_eq_true_eq, Option.getD_some] at hl ht
      simp only [Option.any_some, decide_eq_true_eq, Bool.and_eq_true]
      omega
  obtain ⟨t, ht⟩ := Filter.eventually_atTop.1 hrows
  refine ⟨t, fun clock hclock id r hr => ?_⟩
  have hrow := fun t' ht' => ht t' ht' (id, r) (Table.mem_of_get hr)
  exact ⟨(hrow _ hclock.1).1, (hrow _ (hclock.2 id).2).2.1, (hrow _ (hclock.2 id).1).2.2⟩

/-! ## Rows through a pass -/

theorem rowIs_true {db : Db} {p : Recording → Bool} {id : RecordingId} :
    rowIs db p id = true ↔ ∃ r, db.get id = some r ∧ p r = true :=
  Option.any_eq_true _ _

theorem rowIs_imp {db : Db} {p q : Recording → Bool} (hpq : ∀ r, p r = true → q r = true) {id : RecordingId}
    (h : rowIs db p id = true) : rowIs db q id = true := by
  obtain ⟨r, hr, hp⟩ := rowIs_true.1 h
  exact rowIs_true.2 ⟨r, hr, hpq r hp⟩

theorem rowIs_and (db : Db) (p q : Recording → Bool) (id : RecordingId) :
    rowIs db (fun r => p r && q r) id = (rowIs db p id && rowIs db q id) := by
  unfold rowIs
  cases db.get id <;> rfl

theorem mem_keys_of_rowIs {db : Db} {p : Recording → Bool} {id : RecordingId} (h : rowIs db p id = true) :
    id ∈ db.keys := by
  obtain ⟨r, hr, -⟩ := rowIs_true.1 h
  exact Table.mem_keys.2 ⟨r, hr⟩

/-- What no tick writes stays true of a row. -/
theorem Same.rowIs {db db' : Db} (h : Same db db') {p : Recording → Bool} (hp : ∀ r, p r = p (facts r))
    (id : RecordingId) : rowIs db' p id = rowIs db p id := by
  have hany : ∀ db : Db, Recordings.rowIs db p id = ((db.get id).map facts).any p := by
    intro db
    unfold Recordings.rowIs
    rw [Option.any_map]
    exact congrArg (fun q => (db.get id).any q) (funext hp)
  rw [hany, hany, h.2 id]

/-- What a row is after a pass that leaves this of it alone. -/
theorem rowIs_keep {db db' : Db} {W : List RecordingId} {f : Recording → Recording} {p : Recording → Bool}
    {id : RecordingId} (h : db'.get id = if id ∈ W then (db.get id).map f else db.get id)
    (hp : id ∈ W → ∀ r, db.get id = some r → p (f r) = p r) : rowIs db' p id = rowIs db p id := by
  unfold rowIs
  rw [h]
  split
  · rename_i hW
    cases hr : db.get id with
    | none => rfl
    | some r => exact hp hW r hr
  · rfl

/-- A row that is something after a pass was so before, if the pass makes no row so. -/
theorem rowIs_down {db db' : Db} {W : List RecordingId} {f : Recording → Recording} {p : Recording → Bool}
    {id : RecordingId} (h : db'.get id = if id ∈ W then (db.get id).map f else db.get id)
    (hp : ∀ r, p (f r) = true → p r = true) (hafter : rowIs db' p id = true) : rowIs db p id = true := by
  obtain ⟨r', hr', hp'⟩ := rowIs_true.1 hafter
  rw [h] at hr'
  split at hr'
  · obtain ⟨r, hr, rfl⟩ := Option.map_eq_some_iff.1 hr'
    exact rowIs_true.2 ⟨r, hr, hp r hp'⟩
  · exact rowIs_true.2 ⟨r', hr', hp'⟩

theorem open_of_filming {r : Recording} (h : isFilming r = true) : isOpen r = true := by
  unfold isFilming at h
  unfold isOpen
  cases hs : r.status <;> rw [hs] at h <;> first | rfl | cases h

theorem stopped_of_accepts {o : Outside} {r : Recording} (h : accepts o r = true) :
    isFilming (stopped o r) = false := by
  unfold stopped
  rw [if_pos h]
  rfl

theorem stopped_of_refused {o : Outside} {r : Recording} (h : accepts o r = false) : stopped o r = r :=
  if_neg (by rw [h]; simp)

theorem stopped_filming {o : Outside} {r : Recording} (h : isFilming (stopped o r) = true) :
    isFilming r = true := by
  cases ha : accepts o r with
  | true =>
    rw [stopped_of_accepts ha] at h
    cases h
  | false => rwa [stopped_of_refused ha] at h

theorem stopped_open {o : Outside} {r : Recording} (h : isFilming r = true) : isOpen (stopped o r) = true := by
  unfold stopped
  split
  · rfl
  · exact open_of_filming h

theorem applied_ok_now {storage : ObjectStorage} (now now' : Int) {key : Option String} {result : EgressResult} :
    (applied storage now key result).toBool = (applied storage now' key result).toBool := by
  unfold applied
  cases result.status with
  | failed => rfl
  | complete =>
    simp only [bind, Except.bind]
    split
    · rfl
    · split <;> rfl

theorem change_of_error {w : Except ApplyError (Recording → Recording)} (h : w.toBool = false) : change w = id := by
  cases w with
  | error e => rfl
  | ok f => cases h

theorem applied_closed {storage : ObjectStorage} {now : Int} {key : Option String} {result : EgressResult}
    (h : (applied storage now key result).toBool = true) (r : Recording) :
    isOpen (change (applied storage now key result) r) = false := by
  cases hw : applied storage now key result with
  | error e =>
    rw [hw] at h
    cases h
  | ok f =>
    show isOpen (f r) = false
    unfold isOpen
    rw [(applied_writes hw r).1]
    cases result.status <;> rfl

/-- What the main pass does to a row: one that blocks it stays as it is, and every other one is finished
once LiveKit has had its time. -/
theorem settled_spec (o : Outside) (now : Int) (r : Recording) :
    (blocks o r = true ∧ settled o now r = r) ∨
    (blocks o r = false ∧
      (isOpen (settled o now r) = false ∨ (settled o now r = r ∧ now - r.createdAt ≤ ABANDON_MS))) := by
  cases ht : truthy r.egressId with
  | none =>
    have hb : blocks o r = false := by simp only [blocks, ht]
    have hs : settled o now r = erroredRow "Recording never started" r := by simp only [settled, ht]
    exact .inr ⟨hb, .inl (by rw [hs]; rfl)⟩
  | some e =>
    cases hd : describe o.livekit e with
    | error err =>
      have hb : blocks o r = true := by simp only [blocks, ht, hd]
      have hs : settled o now r = r := by simp only [settled, ht, hd]
      exact .inl ⟨hb, hs⟩
    | ok answer =>
      cases answer with
      | none =>
        have hb : blocks o r = false := by simp only [blocks, ht, hd]
        have hs : settled o now r = if ABANDON_MS < now - r.createdAt then
            erroredRow "LiveKit has no record of this recording" r else r := by simp only [settled, ht, hd]
        by_cases hold : ABANDON_MS < now - r.createdAt
        · exact .inr ⟨hb, .inl (by rw [hs, if_pos hold]; rfl)⟩
        · exact .inr ⟨hb, .inr ⟨hs.trans (if_neg hold), by omega⟩⟩
      | some info =>
        have hb : blocks o r
            = (!info.finished || !(applied o.storage 0 r.storageKey (pulledResult e info)).toBool) := by
          simp only [blocks, ht, hd]
        have hs : settled o now r = if info.finished then
            change (applied o.storage now r.storageKey (pulledResult e info)) r else r := by
          simp only [settled, ht, hd]
        rw [hb, hs]
        cases hfin : info.finished with
        | false => exact .inl ⟨rfl, rfl⟩
        | true =>
          cases hw : (applied o.storage 0 r.storageKey (pulledResult e info)).toBool with
          | false =>
            rw [applied_ok_now 0 now] at hw
            exact .inl ⟨rfl, by rw [if_pos rfl, change_of_error hw]; rfl⟩
          | true =>
            rw [applied_ok_now 0 now] at hw
            exact .inr ⟨rfl, .inl (by rw [if_pos rfl]; exact applied_closed hw r)⟩

theorem settled_of_blocks {o : Outside} {r : Recording} (h : blocks o r = true) (now : Int) :
    settled o now r = r := by
  rcases settled_spec o now r with ⟨-, hs⟩ | ⟨hb, -⟩
  · exact hs
  · rw [h] at hb
    cases hb

theorem settled_of_clear {o : Outside} {r : Recording} {now : Int} (h : blocks o r = false)
    (hold : ABANDON_MS < now - r.createdAt) : isOpen (settled o now r) = false := by
  rcases settled_spec o now r with ⟨hb, -⟩ | ⟨-, hclosed | ⟨-, hyoung⟩⟩
  · rw [h] at hb
    cases hb
  · exact hclosed
  · omega

/-- A row is finished by the main pass, or left as it is. -/
theorem settled_cases (o : Outside) (now : Int) (r : Recording) :
    settled o now r = r ∨ isOpen (settled o now r) = false := by
  rcases settled_spec o now r with ⟨-, hs⟩ | ⟨-, hclosed | ⟨hs, -⟩⟩
  · exact .inl hs
  · exact .inr hclosed
  · exact .inl hs

theorem settled_open {o : Outside} {now : Int} {r : Recording} (h : isOpen (settled o now r) = true) :
    isOpen r = true := by
  rcases settled_cases o now r with heq | hclosed
  · rwa [heq] at h
  · rw [hclosed] at h
    cases h

theorem settled_filming {o : Outside} {now : Int} {r : Recording} (h : isFilming (settled o now r) = true) :
    isFilming r = true := by
  rcases settled_cases o now r with heq | hclosed
  · rwa [heq] at h
  · rw [open_of_filming h] at hclosed
    cases hclosed

theorem capped_filming {o : Outside} {clock : Clock} {id : RecordingId} {r : Recording}
    (h : isFilming (capped o clock id r) = true) : isFilming r = true := by
  unfold capped at h
  split at h
  · exact stopped_filming h
  · exact h

/-! ## A tick -/

section Tick

variable {o : Outside} {clock : Clock} {db : Db}

theorem ended_filming {id : RecordingId} (h : rowIs (stopRecordingsForEndedClasses o db) isFilming id = true) :
    rowIs db isFilming id = true :=
  rowIs_down ((ended_get o db).2 id) (fun _ => stopped_filming) h

theorem over_filming {id : RecordingId} (h : rowIs (stopOverrunningRecordings o clock db) isFilming id = true) :
    rowIs db isFilming id = true :=
  rowIs_down ((over_get o clock db).2 id) (fun _ => capped_filming) h

/-- A stop leaves a row unfinished. -/
theorem ended_open (id : RecordingId) : rowIs (stopRecordingsForEndedClasses o db) isOpen id = rowIs db isOpen id := by
  refine rowIs_keep ((ended_get o db).2 id) fun hW r hr => ?_
  obtain ⟨q, hq, hp⟩ := rowIs_true.1 (mem_of_mem_window hW).2
  rw [hr] at hq
  cases hq
  have hf : isFilming r = true := (Bool.and_eq_true_iff.1 hp).1
  rw [stopped_open hf, open_of_filming hf]

theorem over_open (id : RecordingId) :
    rowIs (stopOverrunningRecordings o clock db) isOpen id = rowIs db isOpen id := by
  refine rowIs_keep ((over_get o clock db).2 id) fun hW r hr => ?_
  obtain ⟨q, hq, hp⟩ := rowIs_true.1 (mem_of_mem_window hW).2
  rw [hr] at hq
  cases hq
  have hf : isFilming r = true := (Bool.and_eq_true_iff.1 hp).1
  unfold capped
  split
  · rw [stopped_open hf, open_of_filming hf]
  · rfl

/-- The rows when the main pass begins. -/
def stops (o : Outside) (clock : Clock) (db : Db) : Db :=
  stopOverrunningRecordings o clock (stopRecordingsForEndedClasses o db)

theorem stops_open (o : Outside) (clock : Clock) (db : Db) (id : RecordingId) :
    rowIs (stops o clock db) isOpen id = rowIs db isOpen id :=
  (over_open id).trans (ended_open id)

theorem stops_same (o : Outside) (clock : Clock) (db : Db) : Same db (stops o clock db) :=
  (ended_get o db).1.trans (over_get o clock _).1

theorem reconcile_get (hu : UniqueEgress db) (id : RecordingId) : (reconcile o clock db).get id
    = if id ∈ window take (rowIs (stops o clock db) (isStuck clock)) db.keys then
        ((stops o clock db).get id).map (settled o (clock.turn id))
      else (stops o clock db).get id := by
  have hs := stops_same o clock db
  have h := (main_get o clock (hs.unique hu)).2 id
  rw [hs.1] at h
  exact h

theorem reconcile_same (hu : UniqueEgress db) : Same db (reconcile o clock db) := by
  have hs := stops_same o clock db
  exact hs.trans (main_get o clock (hs.unique hu)).1

theorem reconcile_open (hu : UniqueEgress db) {id : RecordingId}
    (h : rowIs (reconcile o clock db) isOpen id = true) : rowIs db isOpen id = true := by
  have := rowIs_down (reconcile_get hu id) (fun _ => settled_open) h
  rwa [stops_open] at this

theorem reconcile_filming (hu : UniqueEgress db) {id : RecordingId}
    (h : rowIs (reconcile o clock db) isFilming id = true) :
    rowIs (stops o clock db) isFilming id = true :=
  rowIs_down (reconcile_get hu id) (fun _ => settled_filming) h

theorem ended_filming_after (hu : UniqueEgress db) {id : RecordingId}
    (h : rowIs (reconcile o clock db) isFilming id = true) :
    rowIs (stopRecordingsForEndedClasses o db) isFilming id = true :=
  over_filming (reconcile_filming hu h)

/-- In a late tick the main pass asks for every unfinished row. -/
theorem stuck_of_late (hlate : Late o db clock) {id : RecordingId} :
    rowIs (stops o clock db) (isStuck clock) id = rowIs db isOpen id := by
  rw [← stops_open o clock db]
  unfold rowIs
  cases hr : (stops o clock db).get id with
  | none => rfl
  | some r =>
    have hold := (hlate.same (stops_same o clock db) id r hr).1
    show (isOpen r && decide (r.createdAt < clock.asked - SETTLE_MS)) = isOpen r
    rw [decide_eq_true hold, Bool.and_true]

end Tick

/-! ## A tick that changes nothing -/

/-- Rows as some ticks leave them. -/
structure Shrunk (db₀ db : Db) : Prop where
  same : Same db₀ db
  opens : ∀ id, rowIs db isOpen id = true → rowIs db₀ isOpen id = true
  films : ∀ id, rowIs db isFilming id = true → rowIs db₀ isFilming id = true

/-- A tick after which the same rows are unfinished, and the same ones are being filmed. -/
structure Idle (o : Outside) (clock : Clock) (db : Db) : Prop where
  opens : ∀ id, rowIs db isOpen id = true → rowIs (reconcile o clock db) isOpen id = true
  films : ∀ id, rowIs db isFilming id = true → rowIs (reconcile o clock db) isFilming id = true

section Idle

variable {o : Outside} {clock : Clock} {db₀ db : Db}

/-- A row that stays unfinished blocks the main pass, or a window of such rows is before it. -/
theorem Idle.kept (h : Idle o clock db) (hs : Shrunk db₀ db) (hu : UniqueEgress db) (hlate : Late o db clock)
    {id : RecordingId} (hid : rowIs db isOpen id = true) : kept o db₀ id = true := by
  have hround : ∀ y ∈ window take (rowIs (stops o clock db) (isStuck clock)) db.keys,
      rowIs db₀ (blocks o) y = true := by
    intro y hy
    have hopen : rowIs db isOpen y = true := by
      rw [← stuck_of_late hlate]
      exact (mem_of_mem_window hy).2
    obtain ⟨r', hr', hafter⟩ := rowIs_true.1 (h.opens y hopen)
    rw [reconcile_get hu, if_pos hy] at hr'
    obtain ⟨r, hr, rfl⟩ := Option.map_eq_some_iff.1 hr'
    rw [← (hs.same.trans (stops_same o clock db)).rowIs (p := blocks o) fun _ => rfl]
    refine rowIs_true.2 ⟨r, hr, ?_⟩
    by_contra hclear
    have hold := (hlate.same (stops_same o clock db) y r hr).2.1
    rw [settled_of_clear (by simpa using hclear) hold] at hafter
    cases hafter
  have hpending : rowIs (stops o clock db) (isStuck clock) id = true := by
    rw [stuck_of_late hlate]
    exact hid
  unfold Recordings.kept
  rw [Bool.and_eq_true, Bool.or_eq_true, decide_eq_true_eq]
  refine ⟨hs.opens id hid, ?_⟩
  rcases held_up hround (mem_keys_of_rowIs hid) hpending with hb | hcount
  · exact .inl hb
  · right
    rw [hs.same.1] at hcount
    refine hcount.trans (List.countP_mono_left fun y _ hy => ?_)
    rw [Bool.and_eq_true, stuck_of_late hlate] at hy
    rw [rowIs_and, hs.opens y hy.1, hy.2]
    rfl

/-- A row that stays active although it can be stopped is not come to by the pass over ended classes. -/
theorem Idle.missedEnded (h : Idle o clock db) (hs : Shrunk db₀ db) (hu : UniqueEgress db)
    (hlate : Late o db clock) {id : RecordingId} (hid : rowIs db isFilming id = true)
    (haccepts : rowIs db₀ (accepts o) id = true) : missedEnded o db₀ id = true := by
  have hround : ∀ y ∈ window take (rowIs db (isOfEnded o)) db.keys, (!rowIs db₀ (accepts o) y) = true := by
    intro y hy
    have hfilming : rowIs db isFilming y = true :=
      rowIs_imp (fun r hr => (Bool.and_eq_true_iff.1 hr).1) (mem_of_mem_window hy).2
    have hafter := ended_filming_after hu (h.films y hfilming)
    obtain ⟨r', hr', hf⟩ := rowIs_true.1 hafter
    rw [(ended_get o db).2 y, if_pos hy] at hr'
    obtain ⟨r, hr, rfl⟩ := Option.map_eq_some_iff.1 hr'
    rw [← hs.same.rowIs (p := accepts o) fun _ => rfl, Bool.not_eq_true', ← Bool.not_eq_true]
    intro ha
    obtain ⟨q, hq, ha⟩ := rowIs_true.1 ha
    rw [hr] at hq
    cases hq
    rw [stopped_of_accepts ha] at hf
    cases hf
  unfold Recordings.missedEnded
  cases hended : rowIs db₀ (fun r => o.ended r.sessionId) id with
  | false => rfl
  | true =>
    have hpending : rowIs db (isOfEnded o) id = true := by
      rw [← hs.same.rowIs (fun _ => rfl)] at hended
      show rowIs db (fun r => isFilming r && o.ended r.sessionId) id = true
      rw [rowIs_and, hid, hended]
      rfl
    rcases held_up hround (mem_keys_of_rowIs hid) hpending with hb | hcount
    · rw [haccepts] at hb
      cases hb
    · rw [Bool.not_true, Bool.false_or, decide_eq_true_eq]
      rw [hs.same.1] at hcount
      refine hcount.trans (List.countP_mono_left fun y _ hy => ?_)
      rw [Bool.and_eq_true] at hy
      have hsplit : rowIs db (fun r => isFilming r && o.ended r.sessionId) y = true := hy.1
      rw [rowIs_and, Bool.and_eq_true] at hsplit
      have hended' : rowIs db₀ (fun r => o.ended r.sessionId) y = true :=
        (hs.same.rowIs (fun _ => rfl) y).symm.trans hsplit.2
      have hclass : rowIs db₀ (isOfEnded o) y = true := by
        show rowIs db₀ (fun r => isFilming r && o.ended r.sessionId) y = true
        rw [rowIs_and, hs.films y hsplit.1, hended']
        rfl
      unfold heldEnded
      rw [hclass, hy.2, h.kept hs hu hlate (rowIs_imp (fun _ => open_of_filming) hsplit.1)]
      rfl

/-- Nor by the pass over ceilings, if it is under one that can be run past. -/
theorem Idle.missedCapped (h : Idle o clock db) (hs : Shrunk db₀ db) (hu : UniqueEgress db)
    (hlate : Late o db clock) {id : RecordingId} (hid : rowIs db isFilming id = true)
    (haccepts : rowIs db₀ (accepts o) id = true) (hlimited : rowIs db₀ (limited o) id = true) :
    missedCapped o db₀ id = true := by
  have hsame₁ : Same db₀ (stopRecordingsForEndedClasses o db) := hs.same.trans (ended_get o db).1
  have hround : ∀ y ∈ window take (rowIs (stopRecordingsForEndedClasses o db) (isCapped o))
      (stopRecordingsForEndedClasses o db).keys,
      (!rowIs db₀ (accepts o) y || !rowIs db₀ (limited o) y) = true := by
    intro y hy
    have hfilming : rowIs db isFilming y = true :=
      ended_filming (rowIs_imp (fun r hr => (Bool.and_eq_true_iff.1 hr).1) (mem_of_mem_window hy).2)
    obtain ⟨r', hr', hf⟩ := rowIs_true.1 (reconcile_filming hu (h.films y hfilming))
    unfold stops at hr'
    rw [(over_get o clock _).2 y, if_pos hy] at hr'
    obtain ⟨r, hr, rfl⟩ := Option.map_eq_some_iff.1 hr'
    rw [← hsame₁.rowIs (p := accepts o) fun _ => rfl, ← hsame₁.rowIs (p := limited o) fun _ => rfl,
      ← Bool.not_and, Bool.not_eq_true', ← Bool.not_eq_true, Bool.and_eq_true]
    rintro ⟨ha, hl⟩
    obtain ⟨q, hq, ha⟩ := rowIs_true.1 ha
    rw [hr] at hq
    cases hq
    obtain ⟨q, hq, hl⟩ := rowIs_true.1 hl
    rw [hr] at hq
    cases hq
    unfold capped at hf
    rw [if_pos ((hlate.same (ended_get o db).1 y r hr).2.2 hl), stopped_of_accepts ha] at hf
    cases hf
  have hafter := ended_filming_after hu (h.films id hid)
  have hpending : rowIs (stopRecordingsForEndedClasses o db) (isCapped o) id = true := by
    show rowIs _ (fun r => isFilming r && (o.maxRecordingMinutes r.organizationId).isSome) id = true
    rw [rowIs_and, hafter, Bool.true_and, hsame₁.rowIs fun _ => rfl]
    refine rowIs_imp (fun r hr => ?_) hlimited
    unfold limited at hr
    cases hcap : o.maxRecordingMinutes r.organizationId with
    | none =>
      rw [hcap] at hr
      cases hr
    | some cap => rfl
  unfold Recordings.missedCapped
  rw [decide_eq_true_eq]
  rcases held_up hround (mem_keys_of_rowIs hpending) hpending with hb | hcount
  · rw [haccepts, hlimited] at hb
    cases hb
  · rw [hsame₁.1] at hcount
    refine hcount.trans (List.countP_mono_left fun y _ hy => ?_)
    rw [Bool.and_eq_true] at hy
    have hsplit : rowIs (stopRecordingsForEndedClasses o db)
        (fun r => isFilming r && (o.maxRecordingMinutes r.organizationId).isSome) y = true := hy.1
    rw [rowIs_and, Bool.and_eq_true,
      hsame₁.rowIs (p := fun r => (o.maxRecordingMinutes r.organizationId).isSome) fun _ => rfl] at hsplit
    have hfilming := ended_filming hsplit.1
    have hclass : rowIs db₀ (isCapped o) y = true := by
      show rowIs db₀ (fun r => isFilming r && (o.maxRecordingMinutes r.organizationId).isSome) y = true
      rw [rowIs_and, hs.films y hfilming, hsplit.2]
      rfl
    unfold heldCapped
    rw [hclass, h.kept hs hu hlate (rowIs_imp (fun _ => open_of_filming) hfilming)]
    cases ha : rowIs db₀ (accepts o) y with
    | false => rfl
    | true =>
      rw [ha, Bool.not_true, Bool.false_or] at hy
      rw [hy.2, h.missedEnded hs hu hlate hfilming ha]
      rfl

end Idle

/-! ## Rows that stay for ever -/

/-- The rows at the front of each window, as they are after some late ticks. -/
structure Held (o : Outside) (db₀ db : Db) : Prop where
  same : Same db₀ db
  opens : ∀ id, kept o db₀ id = true → rowIs db isOpen id = true
  ended : ∀ id, heldEnded o db₀ id = true → rowIs db isFilming id = true
  capped : ∀ id, heldCapped o db₀ id = true → rowIs db isFilming id = true

theorem held_init (o : Outside) (db : Db) : Held o db db where
  same := Same.refl db
  opens := by
    intro id h
    exact (Bool.and_eq_true_iff.1 h).1
  ended := by
    intro id h
    unfold heldEnded at h
    simp only [Bool.and_eq_true] at h
    exact rowIs_imp (fun r hr => (Bool.and_eq_true_iff.1 hr).1) h.1.1
  capped := by
    intro id h
    unfold heldCapped at h
    simp only [Bool.and_eq_true] at h
    exact rowIs_imp (fun r hr => (Bool.and_eq_true_iff.1 hr).1) h.1.1

/-- A row a pass does nothing to. -/
theorem get_of_unchanged {db db' : Db} {W : List RecordingId} {f : Recording → Recording} {id : RecordingId}
    (h : db'.get id = if id ∈ W then (db.get id).map f else db.get id)
    (hf : id ∈ W → ∀ r, db.get id = some r → f r = r) : db'.get id = db.get id := by
  rw [h]
  split
  · rename_i hW
    cases hr : db.get id with
    | none => rfl
    | some r => exact congrArg some (hf hW r hr)
  · rfl

theorem rowIs_congr {db db' : Db} {id : RecordingId} (h : db'.get id = db.get id) (p : Recording → Bool) :
    rowIs db' p id = rowIs db p id := by
  unfold rowIs
  rw [h]

/-- What is so of a row, by its table. -/
theorem rowIs_get {db : Db} {p : Recording → Bool} {id : RecordingId} {r : Recording} (hr : db.get id = some r) :
    rowIs db p id = p r := by
  unfold rowIs
  rw [hr]
  rfl

section Held

variable {o : Outside} {clock : Clock} {db₀ db : Db}

theorem Held.main (h : Held o db₀ db) (hu : UniqueEgress db) (hlate : Late o db clock) {id : RecordingId}
    (hid : Recordings.kept o db₀ id = true) : (reconcile o clock db).get id = (stops o clock db).get id := by
  refine get_of_unchanged (reconcile_get hu id) fun hW r hr => ?_
  unfold Recordings.kept at hid
  rw [Bool.and_eq_true, Bool.or_eq_true, decide_eq_true_eq] at hid
  rcases hid.2 with hb | hcount
  · have hsame : Same db₀ (stops o clock db) := h.same.trans (stops_same o clock db)
    rw [← hsame.rowIs (p := blocks o) fun _ => rfl, rowIs_get hr] at hb
    exact settled_of_blocks hb _
  · refine absurd hW ?_
    rw [h.same.1]
    refine not_mem_window (fun y _ hy => ?_) hcount
    rw [rowIs_and, Bool.and_eq_true] at hy
    rw [stuck_of_late hlate]
    refine h.opens y ?_
    unfold Recordings.kept
    rw [hy.1, hy.2]
    rfl

/-- A row whose stop LiveKit refuses, or that the pass over ended classes never comes to. -/
theorem Held.pass_ended (h : Held o db₀ db) {id : RecordingId}
    (hid : rowIs db₀ (accepts o) id = false ∨ missedEnded o db₀ id = true) :
    (stopRecordingsForEndedClasses o db).get id = db.get id := by
  refine get_of_unchanged ((ended_get o db).2 id) fun hW r hr => ?_
  rcases hid with hrefused | hmissed
  · rw [← h.same.rowIs (p := accepts o) fun _ => rfl, rowIs_get hr] at hrefused
    exact stopped_of_refused hrefused
  · refine absurd hW ?_
    unfold missedEnded at hmissed
    rw [Bool.or_eq_true, decide_eq_true_eq, Bool.not_eq_true'] at hmissed
    rcases hmissed with hopen | hcount
    · rw [← h.same.rowIs (p := fun r => o.ended r.sessionId) fun _ => rfl] at hopen
      intro hW
      have hp := (mem_of_mem_window hW).2
      rw [rowIs_get hr] at hopen hp
      have hended : o.ended r.sessionId = true := (Bool.and_eq_true_iff.1 hp).2
      rw [hended] at hopen
      cases hopen
    · rw [h.same.1]
      refine not_mem_window (fun y _ hy => ?_) hcount
      show rowIs db (fun r => isFilming r && o.ended r.sessionId) y = true
      rw [rowIs_and, h.ended y hy, Bool.true_and, h.same.rowIs (fun _ => rfl)]
      unfold heldEnded at hy
      simp only [Bool.and_eq_true] at hy
      exact rowIs_imp (fun r hr => (Bool.and_eq_true_iff.1 hr).2) hy.1.1

theorem heldCapped_pass {id : RecordingId} (h : heldCapped o db₀ id = true) :
    rowIs db₀ (accepts o) id = false ∨ missedEnded o db₀ id = true := by
  unfold heldCapped at h
  simp only [Bool.and_eq_true, Bool.or_eq_true, Bool.not_eq_true'] at h
  exact h.2.imp_right fun hx => hx.2

/-- A row whose stop is refused, that has no ceiling, or that the pass over ceilings never comes to. -/
theorem Held.pass_over (h : Held o db₀ db) {id : RecordingId}
    (hid : rowIs db₀ (accepts o) id = false ∨ rowIs db₀ (limited o) id = false ∨
      missedCapped o db₀ id = true) :
    (stops o clock db).get id = (stopRecordingsForEndedClasses o db).get id := by
  have hsame : Same db₀ (stopRecordingsForEndedClasses o db) := h.same.trans (ended_get o db).1
  refine get_of_unchanged ((over_get o clock _).2 id) fun hW r hr => ?_
  rcases hid with hrefused | hfree | hmissed
  · rw [← hsame.rowIs (p := accepts o) fun _ => rfl, rowIs_get hr] at hrefused
    unfold Recordings.capped
    rw [stopped_of_refused hrefused]
    split <;> rfl
  · rw [← hsame.rowIs (p := limited o) fun _ => rfl, rowIs_get hr] at hfree
    unfold Recordings.capped
    refine if_neg ?_
    unfold limited at hfree
    unfold overruns overran
    cases hcap : o.maxRecordingMinutes r.organizationId with
    | none => simp
    | some cap =>
      rw [hcap, Option.any_some, decide_eq_false_iff_not] at hfree
      simp [hfree]
  · refine absurd hW ?_
    unfold missedCapped at hmissed
    rw [decide_eq_true_eq] at hmissed
    rw [hsame.1]
    refine not_mem_window (fun y _ hy => ?_) hmissed
    show rowIs _ (fun r => isFilming r && (o.maxRecordingMinutes r.organizationId).isSome) y = true
    rw [rowIs_and, rowIs_congr (h.pass_ended (heldCapped_pass hy)), h.capped y hy, Bool.true_and,
      hsame.rowIs (fun _ => rfl)]
    unfold heldCapped at hy
    simp only [Bool.and_eq_true] at hy
    exact rowIs_imp (fun r hr => (Bool.and_eq_true_iff.1 hr).2) hy.1.1

/-- A row no pass does anything to. -/
theorem Held.unchanged (h : Held o db₀ db) (hu : UniqueEgress db) (hlate : Late o db clock) {id : RecordingId}
    (hkept : Recordings.kept o db₀ id = true)
    (hended : rowIs db₀ (accepts o) id = false ∨ missedEnded o db₀ id = true)
    (hover : rowIs db₀ (accepts o) id = false ∨ rowIs db₀ (limited o) id = false ∨
      missedCapped o db₀ id = true) :
    (reconcile o clock db).get id = db.get id :=
  (h.main hu hlate hkept).trans ((h.pass_over hover).trans (h.pass_ended hended))

theorem Held.tick (h : Held o db₀ db) (hu : UniqueEgress db) (hlate : Late o db clock) :
    Held o db₀ (reconcile o clock db) where
  same := h.same.trans (reconcile_same hu)
  opens := by
    intro id hid
    rw [rowIs_congr (h.main hu hlate hid), stops_open]
    exact h.opens id hid
  ended := by
    intro id hid
    have hparts := hid
    unfold heldEnded at hparts
    simp only [Bool.and_eq_true, Bool.not_eq_true'] at hparts
    rw [rowIs_congr (h.unchanged hu hlate hparts.2 (.inl hparts.1.2) (.inl hparts.1.2))]
    exact h.ended id hid
  capped := by
    intro id hid
    have hparts := hid
    unfold heldCapped at hparts
    simp only [Bool.and_eq_true, Bool.or_eq_true, Bool.not_eq_true'] at hparts
    rw [rowIs_congr (h.unchanged hu hlate hparts.1.2 (heldCapped_pass hid)
      (hparts.2.imp_right fun hx => .inl hx.1))]
    exact h.capped id hid

end Held

/-! ## All ticks -/

theorem ticks_same (o : Outside) (clock : Nat → Clock) {db : Db} (hu : UniqueEgress db) :
    ∀ n, Same db (ticks o clock db n)
  | 0 => Same.refl db
  | n + 1 => (ticks_same o clock hu n).trans (reconcile_same ((ticks_same o clock hu n).unique hu))

theorem ticks_shrunk (o : Outside) (clock : Nat → Clock) {db : Db} (hu : UniqueEgress db) :
    ∀ n, Shrunk db (ticks o clock db n)
  | 0 => ⟨Same.refl db, fun _ h => h, fun _ h => h⟩
  | n + 1 => by
    have ih := ticks_shrunk o clock hu n
    have hu' := ih.same.unique hu
    refine ⟨ticks_same o clock hu (n + 1), fun id h => ih.opens id (reconcile_open hu' h), fun id h => ih.films id ?_⟩
    exact ended_filming (ended_filming_after hu' h)

theorem ticks_held {o : Outside} {clock : Nat → Clock} {db : Db} (hu : UniqueEgress db)
    (hlate : ∀ n, Late o db (clock n)) : ∀ n, Held o db (ticks o clock db n)
  | 0 => held_init o db
  | n + 1 =>
    (ticks_held hu hlate n).tick ((ticks_same o clock hu n).unique hu) ((hlate n).same (ticks_same o clock hu n))

/-- From some tick on, ticks change nothing. -/
theorem exists_idle (o : Outside) (clock : Nat → Clock) {db : Db} (hu : UniqueEgress db) :
    ∃ N, ∀ n, N ≤ n → Idle o (clock n) (ticks o clock db n) := by
  have hu' : ∀ n, UniqueEgress (ticks o clock db n) := fun n => (ticks_same o clock hu n).unique hu
  obtain ⟨N, hN⟩ := eventually_same (fun n => rowIs (ticks o clock db n) isOpen) db.keys
    fun n id _ h => reconcile_open (hu' n) h
  obtain ⟨M, hM⟩ := eventually_same (fun n => rowIs (ticks o clock db n) isFilming) db.keys
    fun n id _ h => ended_filming (ended_filming_after (hu' n) h)
  refine ⟨max N M, fun n hn => ⟨fun id h => ?_, fun id h => ?_⟩⟩
  · have hid : id ∈ db.keys := (ticks_same o clock hu n).1 ▸ mem_keys_of_rowIs h
    exact (hN n ((le_max_left N M).trans hn) id hid).trans h
  · have hid : id ∈ db.keys := (ticks_same o clock hu n).1 ▸ mem_keys_of_rowIs h
    exact (hM n ((le_max_right N M).trans hn) id hid).trans h

/-- A row that starves is there, as it was, after every late tick. -/
theorem starving_stays {o : Outside} {clock : Nat → Clock} {db : Db} (hu : UniqueEgress db)
    (hlate : ∀ n, Late o db (clock n)) {id : RecordingId} (h : starves o db id = true) (n : Nat) :
    ¬ NothingLeft o (clock n) (ticks o clock db (n + 1)) := by
  intro hleft
  have hsame := ticks_same o clock hu (n + 1)
  unfold starves at h
  rw [Bool.and_eq_true, Bool.or_eq_true] at h
  obtain ⟨hkept, hwhy⟩ := h
  obtain ⟨r, hr, hopen⟩ := rowIs_true.1 ((ticks_held hu hlate (n + 1)).opens id hkept)
  have hrow := (hlate n).same hsame id r hr
  rcases hwhy with hreported | hover
  · rw [← hsame.rowIs (p := reported o) fun _ => rfl, rowIs_get hr] at hreported
    rw [(hleft id r hr).1 hrow.1 hreported] at hopen
    cases hopen
  · simp only [Bool.and_eq_true] at hover
    obtain ⟨⟨⟨⟨hfilming, haccepts⟩, hlimited⟩, hended⟩, hcapped⟩ := hover
    -- no tick does anything to the row
    have hget : ∀ m, (ticks o clock db m).get id = db.get id := by
      intro m
      induction m with
      | zero => rfl
      | succ m ih =>
        have hs := ticks_same o clock hu m
        exact ((ticks_held hu hlate m).unchanged (hs.unique hu) ((hlate m).same hs) hkept (.inr hended)
          (.inr (.inr hcapped))).trans ih
    rw [← hsame.rowIs (p := accepts o) fun _ => rfl, rowIs_get hr] at haccepts
    rw [← hsame.rowIs (p := limited o) fun _ => rfl, rowIs_get hr] at hlimited
    rw [← rowIs_congr (hget (n + 1)), rowIs_get hr] at hfilming
    rw [(hleft id r hr).2 (hrow.2.2 hlimited) haccepts] at hfilming
    cases hfilming

/-- The clock that starts at `t`. -/
def clockFrom (t : Int) (n : Nat) : Clock := ⟨fun _ => t + n, t + n, fun _ => t + n⟩

theorem clockFrom_after (t : Int) (n : Nat) : (clockFrom t n).After t := by
  have hle : t ≤ t + n := by omega
  exact ⟨hle, fun _ => ⟨hle, hle⟩⟩

theorem clockFrom_unbounded (t : Int) : Unbounded (clockFrom t) := by
  intro u
  refine ⟨(u - t).toNat, fun n hn => ?_⟩
  have hle : u ≤ t + n := by omega
  exact ⟨hle, fun _ => ⟨hle, hle⟩⟩

theorem idle_left {o : Outside} {clock : Clock} {db₀ db : Db} (h : Idle o clock db) (hs : Shrunk db₀ db)
    (hu : UniqueEgress db) (hlate : Late o db clock) (hreach : reachesAll o db₀ = true) :
    NothingLeft o clock (reconcile o clock db) := by
  intro id r hr
  have hsame : Same db₀ (reconcile o clock db) := hs.same.trans (reconcile_same hu)
  have hopens : isOpen r = true → kept o db₀ id = true := fun hopen =>
    h.kept hs hu hlate (reconcile_open hu (rowIs_true.2 ⟨r, hr, hopen⟩))
  have hnot : kept o db₀ id = true → starves o db₀ id = false := by
    intro hk
    have hmem : id ∈ db₀.keys := mem_keys_of_rowIs (Bool.and_eq_true_iff.1 hk).1
    simpa using List.all_eq_true.1 hreach id hmem
  have hstatic : ∀ {p : Recording → Bool}, (∀ r, p r = p (facts r)) → p r = true → rowIs db₀ p id = true := by
    intro p hp h
    rw [← hsame.rowIs hp, rowIs_get hr]
    exact h
  constructor
  · intro _ hreported
    rw [← Bool.not_eq_true]
    intro hopen
    have hstarves := hnot (hopens hopen)
    unfold starves at hstarves
    rw [hopens hopen, hstatic (p := reported o) (fun _ => rfl) hreported] at hstarves
    cases hstarves
  · intro hover haccepts
    rw [← Bool.not_eq_true]
    intro hf
    have hfilming : rowIs db isFilming id = true :=
      ended_filming (ended_filming_after hu (rowIs_true.2 ⟨r, hr, hf⟩))
    have hlimited : limited o r = true := by
      unfold overruns overran at hover
      unfold limited
      cases hcap : o.maxRecordingMinutes r.organizationId with
      | none =>
        rw [hcap] at hover
        cases hover
      | some cap =>
        rw [hcap] at hover
        simp only [Option.any_some, Bool.and_eq_true, decide_eq_true_eq] at hover ⊢
        exact hover.1
    have ha := hstatic (p := accepts o) (fun _ => rfl) haccepts
    have hl := hstatic (p := limited o) (fun _ => rfl) hlimited
    have hstarves := hnot (hopens (open_of_filming hf))
    unfold starves at hstarves
    rw [hopens (open_of_filming hf), hs.films id hfilming, ha, hl, h.missedEnded hs hu hlate hfilming ha,
      h.missedCapped hs hu hlate hfilming ha hl] at hstarves
    simp at hstarves

/-- A check that egress ids are unique. -/
theorem unique_of_nodup {db : Db} (h : (db.entries.filterMap fun e => e.2.egressId).Nodup) : UniqueEgress db := by
  have hentries : ∀ {l : List (RecordingId × Recording)}, (l.filterMap fun e => e.2.egressId).Nodup →
      ∀ {a b e}, a ∈ l → b ∈ l → a.2.egressId = some e → b.2.egressId = some e → a = b := by
    intro l hl a b e ha hb hae hbe
    induction l with
    | nil => cases ha
    | cons c l ih =>
      have hlast : ∀ {x}, x ∈ l → x.2.egressId = some e → c.2.egressId = some e → False := by
        intro x hx hxe hce
        simp only [List.filterMap_cons, hce] at hl
        exact (List.nodup_cons.1 hl).1 (List.mem_filterMap.2 ⟨x, hx, hxe⟩)
      have hrest : (l.filterMap fun e => e.2.egressId).Nodup :=
        hl.sublist (List.Sublist.filterMap _ (List.sublist_cons_self c l))
      rcases List.mem_cons.1 ha with rfl | ha'
      · rcases List.mem_cons.1 hb with rfl | hb'
        · rfl
        · exact (hlast hb' hbe hae).elim
      · rcases List.mem_cons.1 hb with rfl | hb'
        · exact (hlast ha' hae hbe).elim
        · exact ih hrest ha' hb'
  intro id id' r r' e hr hr' he he'
  exact congrArg Prod.fst (hentries h (Table.mem_of_get hr) (Table.mem_of_get hr') he he')

/-- However the ticks fall, the reconciler reaches in the end every row whose egress LiveKit reports
finished, and stops in the end every recording past its ceiling that LiveKit would stop, if and only if no
row starves behind rows that stay at the front of the windows. -/
theorem reaches_all_iff {o : Outside} {db : Db} (hu : UniqueEgress db) :
    (∀ clock, Unbounded clock → ∃ N, ∀ n, N ≤ n → NothingLeft o (clock n) (ticks o clock db (n + 1))) ↔
      reachesAll o db = true := by
  obtain ⟨t, ht⟩ := exists_late o db
  constructor
  · intro h
    obtain ⟨N, hN⟩ := h (clockFrom t) (clockFrom_unbounded t)
    refine List.all_eq_true.2 fun id _ => ?_
    rw [Bool.not_eq_true', ← Bool.not_eq_true]
    intro hstarves
    exact starving_stays hu (fun n => ht _ (clockFrom_after t n)) hstarves N (hN N (le_refl N))
  · intro hreach clock hclock
    obtain ⟨N, hN⟩ := exists_idle o clock hu
    obtain ⟨M, hM⟩ := hclock t
    refine ⟨max N M, fun n hn => ?_⟩
    have hs := ticks_shrunk o clock hu n
    exact idle_left (hN n ((le_max_left N M).trans hn)) hs (hs.same.unique hu)
      ((ht _ (hM n ((le_max_right N M).trans hn))).same hs.same) hreach

namespace Example

/-- LiveKit runs every egress but the lesson's, which is over. -/
def busy : LiveKit where
  listEgress := fun e => .ok [if e = "EG_1" then timed else { report .active none with egressId := e }]
  stopEgress := fun _ => .ok ()

def afternoon : Outside := ⟨busy, bucket, fun _ => false, fun _ => none⟩

/-- Classes being filmed, and the lesson that waits for its report, which the database returns last. -/
def filming (n : Nat) : List (RecordingId × Recording) :=
  (List.range n).map (fun i => (toString i, { lesson with status := .recording, egressId := some (toString i) })) ++
    [("lesson", lesson)]

def quiet : Db := ⟨filming 24, by decide⟩

def crowded : Db := ⟨filming 25, by decide⟩

end Example

open Example in
theorem quiet_reached :
    ∃ N, ∀ n, N ≤ n → NothingLeft afternoon (clockFrom 0 n) (ticks afternoon (clockFrom 0) quiet (n + 1)) :=
  (reaches_all_iff (unique_of_nodup (by decide +kernel))).2 (by decide +kernel) (clockFrom 0) (clockFrom_unbounded 0)

open Example in
/-- Behind twenty-five classes still being filmed, the finished lesson is never come to. -/
theorem lesson_starves : ∃ clock, Unbounded clock ∧
    ∀ n, ¬ NothingLeft afternoon (clock n) (ticks afternoon clock crowded (n + 1)) := by
  obtain ⟨t, ht⟩ := exists_late afternoon crowded
  refine ⟨clockFrom t, clockFrom_unbounded t, fun n => ?_⟩
  exact starving_stays (unique_of_nodup (by decide)) (fun n => ht _ (clockFrom_after t n))
    (show starves afternoon crowded "lesson" = true by decide +kernel) n

end Livetich.Recordings
