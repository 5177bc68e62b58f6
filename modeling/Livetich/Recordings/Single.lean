/-
One active recording per class, as long as the check for a running row passes only while no other start
of the class is between its own check and its end, and while no egress of the class runs.
-/
import Livetich.Recordings.Invariants

namespace Livetich.Recordings

open Livetich.Js Livetich.Lib TransSys

/-! ## When starts do not meet -/

/-- The check of a start passes only while no other start of the class is past its own, and while
LiveKit runs no egress of the class. -/
def apart (s : State) : Event → Bool
  | .resume i a => match s.tasks.get i with
    | some (.startRunning sessionId _) => !a.ok || !a.rows.isEmpty ||
        (s.tasks.vacant Task.region i sessionId && s.egresses.entries.all fun e => e.2 != ⟨sessionId, .running⟩)
    | _ => true
  | _ => true

/-! ## The invariant -/

def isActiveIn (s : State) (sessionId : SessionId) (id : RecordingId) : Prop :=
  ∃ r, s.recordings.get id = some r ∧ r.sessionId = sessionId ∧ r.status.isActive = true

def isRunningIn (s : State) (sessionId : SessionId) (e : EgressId) : Prop :=
  s.egresses.get e = some ⟨sessionId, .running⟩

/-- The session of a start that has passed its check and has not called LiveKit yet. -/
def Task.unlaunched : Task → Option SessionId
  | .startStage _ sessionId .. | .startMint sessionId .. | .startEgress sessionId .. => some sessionId
  | _ => none

structure Sole (s : State) : Prop where
  wf : Wf s
  alone : s.tasks.Exclusive Task.region
  one : ∀ sessionId id id', isActiveIn s sessionId id → isActiveIn s sessionId id' → id = id'
  single : ∀ sessionId e e', isRunningIn s sessionId e → isRunningIn s sessionId e' → e = e'
  /-- Until a start makes its row, its class has no active row; from then on, no other one. -/
  fresh : ∀ i t sessionId, s.tasks.get i = some t → t.region = some sessionId → t.carries = none →
    ∀ id, ¬ isActiveIn s sessionId id
  carried : ∀ i t sessionId id, s.tasks.get i = some t → t.region = some sessionId → t.carries = some id →
    (∃ r, s.recordings.get id = some r ∧ r.sessionId = sessionId) ∧
      ∀ id', isActiveIn s sessionId id' → id' = id
  quiet : ∀ i t sessionId, s.tasks.get i = some t → t.unlaunched = some sessionId →
    ∀ e, ¬ isRunningIn s sessionId e

theorem region_of_unlaunched {t : Task} {sessionId : SessionId} (h : t.unlaunched = some sessionId) :
    t.region = some sessionId := by
  cases t with
  | startStage _ _ _ _ => exact h
  | startMint _ _ _ => exact h
  | startEgress _ _ _ => exact h
  | _ => cases h

theorem region_of_carries {t : Task} {id : RecordingId} (h : t.carries = some id) :
    ∃ sessionId, t.region = some sessionId := by
  cases t with
  | startMint sessionId _ _ => exact ⟨sessionId, rfl⟩
  | startEgress sessionId _ _ => exact ⟨sessionId, rfl⟩
  | startWrite sessionId _ _ _ => exact ⟨sessionId, rfl⟩
  | startCatch sessionId _ _ => exact ⟨sessionId, rfl⟩
  | _ => cases h

/-! ## Effects on active rows and running egresses -/

/-- An active row after a task's step was active before, or the task is a start of its class that has
just made it or writes down its egress. -/
theorem Does.active_before {s : State} {a : Answer} {t : Task} {e : Effect} (hd : Does a t e)
    (henabled : e.Enabled s)
    (hcarried : ∀ id, t.carries = some id →
      ∃ r, s.recordings.get id = some r ∧ t.region = some r.sessionId)
    {sessionId : SessionId} {id : RecordingId} (h : isActiveIn (e.run s) sessionId id) :
    isActiveIn s sessionId id ∨
      (∃ organizationId page, t = .startStage .create sessionId organizationId page ∧ id = a.id) ∨
      (t.region = some sessionId ∧ t.carries = some id) := by
  obtain ⟨r, hr, hsession, hactive⟩ := h
  -- a write that leaves the row inactive
  have hclosed : ∀ (j : RecordingId) (f : Recording → Recording), (∀ q, (f q).status.isActive = false) →
      (s.recordings.modify j f).get id = some r → isActiveIn s sessionId id := by
    intro j f hf hr
    by_cases hj : id = j
    · subst hj
      rw [Table.get_modify_self] at hr
      obtain ⟨q, -, rfl⟩ := Option.map_eq_some_iff.1 hr
      rw [hf q] at hactive
      cases hactive
    · rw [Table.get_modify_of_ne _ _ hj] at hr
      exact ⟨r, hr, hsession, hactive⟩
  cases hd with
  | @create sessionId' organizationId page _ =>
    have hr : Table.get (Table.insert s.recordings a.id _) id = some r := hr
    rw [Table.get_insert henabled.1] at hr
    split at hr
    · rename_i hid
      cases hr
      cases hsession
      exact .inr (.inl ⟨organizationId, page, rfl, hid⟩)
    · exact .inl ⟨r, hr, hsession, hactive⟩
  | @recording sessionId' j e' key _ =>
    have hr : Table.get (Table.modify s.recordings j (recordingRow e' key)) id = some r := hr
    by_cases hj : id = j
    · subst hj
      obtain ⟨q, hq, hregion⟩ := hcarried id rfl
      rw [Table.get_modify_self, hq] at hr
      cases hr
      cases hsession
      exact .inr (.inr ⟨hregion, rfl⟩)
    · rw [Table.get_modify_of_ne _ _ hj] at hr
      exact .inl ⟨r, hr, hsession, hactive⟩
  | processing => exact .inl (hclosed _ processingRow (fun _ => rfl) hr)
  | caught => exact .inl (hclosed _ (erroredRow _) (fun _ => rfl) hr)
  | failed => exact .inl (hclosed _ (erroredRow _) (fun _ => rfl) hr)
  | @result next j st write _ =>
    refine .inl (hclosed j write (fun q => ?_) hr)
    rw [(henabled q).1]
    cases st <;> rfl
  | _ => exact .inl ⟨r, hr, hsession, hactive⟩

/-- A running egress after a task's step ran before, or the task is a start of its class that has just
launched it. -/
theorem Does.running_before {s : State} {a : Answer} {t : Task} {e : Effect} (hd : Does a t e)
    (henabled : e.Enabled s) {sessionId : SessionId} {e' : EgressId}
    (h : isRunningIn (e.run s) sessionId e') :
    isRunningIn s sessionId e' ∨
      ∃ organizationId id, t = .startEgress sessionId organizationId id ∧ e' = a.egressId := by
  cases hd with
  | @launch sessionId' organizationId id _ =>
    have h : Table.get (Table.insert s.egresses a.egressId _) e' = some _ := h
    rw [Table.get_insert henabled.1] at h
    split at h
    · rename_i heq
      cases h
      exact .inr ⟨organizationId, id, rfl, heq⟩
    · exact .inl h
  | @halt next id e₀ _ =>
    have h : Table.get (Table.modify s.egresses e₀ _) e' = some _ := h
    rw [Table.get_modify] at h
    split at h
    · obtain ⟨g, -, hg⟩ := Option.map_eq_some_iff.1 h
      cases hg
    · exact .inl h
  | _ => exact .inl h

/-! ## Successors -/

/-- What a task carries after its step: the row it carried before, or the one it has just made. -/
theorem Successor.carries {w : World} {s : State} {a : Answer} {t t' : Task} {id : RecordingId}
    (h : Successor w s a t t') (hid : t'.carries = some id) :
    (t.carries = some id ∧ t.region = t'.region) ∨
      ∃ sessionId organizationId page, t = .startStage .create sessionId organizationId page ∧
        t'.region = some sessionId ∧ id = a.id ∧ a.ok = true := by
  cases h with
  | createdPage hok => cases hid; exact .inr ⟨_, _, _, rfl, rfl, rfl, hok⟩
  | created hok => cases hid; exact .inr ⟨_, _, _, rfl, rfl, rfl, hok⟩
  | minted => exact .inl ⟨hid, rfl⟩
  | launched _ => exact .inl ⟨hid, rfl⟩
  | mintCatch => exact .inl ⟨hid, rfl⟩
  | egressCatch _ => exact .inl ⟨hid, rfl⟩
  | writeCatch _ => exact .inl ⟨hid, rfl⟩
  | follow hf => rw [hf.carries] at hid; cases hid
  | ended hf => rw [hf.carries] at hid; cases hid
  | overrun hf => rw [hf.carries] at hid; cases hid
  | stuck hf => rw [hf.carries] at hid; cases hid
  | _ => cases hid

/-- A task is in the region it was in before, or has just passed the check. -/
theorem Successor.region {w : World} {s : State} {a : Answer} {t t' : Task} {sessionId : SessionId}
    (h : Successor w s a t t') (hr : t'.region = some sessionId) :
    t.region = some sessionId ∨ ∃ organizationId, t = .startRunning sessionId organizationId ∧
      t' = .startStage .urls sessionId organizationId false ∧ a.ok = true ∧ a.rows = [] := by
  cases h with
  | notRunning hok hrows => cases hr; exact .inr ⟨_, rfl, rfl, hok, hrows⟩
  | stage _ => exact .inl hr
  | createdPage _ => exact .inl hr
  | created _ => exact .inl hr
  | minted => exact .inl hr
  | launched _ => exact .inl hr
  | mintCatch => exact .inl hr
  | egressCatch _ => exact .inl hr
  | writeCatch _ => exact .inl hr
  | follow hf => rw [hf.region] at hr; cases hr
  | ended hf => rw [hf.region] at hr; cases hr
  | overrun hf => rw [hf.region] at hr; cases hr
  | stuck hf => rw [hf.region] at hr; cases hr
  | _ => cases hr

/-- A task ahead of its row, after a step: it has made none in this step. -/
theorem Successor.ahead {w : World} {s : State} {a : Answer} {t t' : Task} {sessionId : SessionId}
    (h : Successor w s a t t') (hr : t'.region = some sessionId) (hc : t'.carries = none) :
    t.carries = none ∧ ∀ sessionId organizationId page, t ≠ .startStage .create sessionId organizationId page := by
  cases h with
  | notRunning _ _ => exact ⟨rfl, fun _ _ _ heq => by cases heq⟩
  | stage hbefore =>
    refine ⟨rfl, fun _ _ _ heq => ?_⟩
    cases heq
    exact hbefore rfl
  | follow hf => rw [hf.region] at hr; cases hr
  | ended hf => rw [hf.region] at hr; cases hr
  | overrun hf => rw [hf.region] at hr; cases hr
  | stuck hf => rw [hf.region] at hr; cases hr
  | _ => first | (cases hr; done) | cases hc

/-- A task that has not called LiveKit had not before its step, or has just passed the check. -/
theorem Successor.unlaunched {w : World} {s : State} {a : Answer} {t t' : Task} {sessionId : SessionId}
    (h : Successor w s a t t') (hu : t'.unlaunched = some sessionId) :
    (t.unlaunched = some sessionId ∧ ∀ organizationId id, t ≠ .startEgress sessionId organizationId id) ∨
      ∃ organizationId, t = .startRunning sessionId organizationId ∧ a.ok = true ∧ a.rows = [] := by
  cases h with
  | notRunning hok hrows => cases hu; exact .inr ⟨_, rfl, hok, hrows⟩
  | stage _ => exact .inl ⟨hu, fun _ _ heq => by cases heq⟩
  | createdPage _ => exact .inl ⟨hu, fun _ _ heq => by cases heq⟩
  | created _ => exact .inl ⟨hu, fun _ _ heq => by cases heq⟩
  | minted => exact .inl ⟨hu, fun _ _ heq => by cases heq⟩
  | follow hf => have := region_of_unlaunched hu; rw [hf.region] at this; cases this
  | ended hf => have := region_of_unlaunched hu; rw [hf.region] at this; cases this
  | overrun hf => have := region_of_unlaunched hu; rw [hf.region] at this; cases this
  | stuck hf => have := region_of_unlaunched hu; rw [hf.region] at this; cases this
  | _ => cases hu

/-! ## Steps -/

/-- When the check of a start passes, the class has no active row. -/
theorem check_free {w : World} {s : State} {a : Answer} {sessionId : SessionId}
    {organizationId : OrganizationId} (ha : answers w s a (.startRunning sessionId organizationId) = true)
    (hrows : a.rows = []) (id : RecordingId) : ¬ isActiveIn s sessionId id := by
  rintro ⟨r, hr, hsession, hactive⟩
  simp only [answers, takes, hrows, List.length_nil, List.contains_nil, Bool.or_false, Bool.and_eq_true,
    Nat.reduceBEq, Bool.false_or, List.all_eq_true] at ha
  have := ha.2 (id, r) (Table.mem_of_get hr)
  simp [hsession, hactive] at this

theorem apart_check {s : State} {i : Nat} {a : Answer} {sessionId : SessionId}
    {organizationId : OrganizationId} (hi : s.tasks.get i = some (.startRunning sessionId organizationId))
    (hok : apart s (.resume i a) = true) (hans : a.ok = true) (hrows : a.rows = []) :
    s.tasks.Vacant Task.region i sessionId ∧ ∀ e, ¬ isRunningIn s sessionId e := by
  unfold apart at hok
  simp only [hi, hans, hrows, List.isEmpty_nil, Bool.not_true, Bool.false_or, Bool.and_eq_true,
    List.all_eq_true] at hok
  refine ⟨Pool.vacant_iff.1 hok.1, fun e hrun => ?_⟩
  have := hok.2 _ (Table.mem_of_get hrun)
  simp at this

theorem Sole.active_before {w : World} {s : State} {i : Nat} {a : Answer} {t : Task} (h : Sole s)
    (hi : s.tasks.get i = some t) (ha : answers w s a t = true) {sessionId : SessionId} {id : RecordingId}
    (hact : isActiveIn ((move w s a t).1.run s) sessionId id) :
    isActiveIn s sessionId id ∨
      (∃ organizationId page, t = .startStage .create sessionId organizationId page ∧ id = a.id) ∨
      (t.region = some sessionId ∧ t.carries = some id) := by
  refine (move_does w s a t).active_before (move_enabled (h.wf.tasks i t hi) ha) (fun id' hc => ?_) hact
  obtain ⟨sessionId', hr⟩ := region_of_carries hc
  obtain ⟨⟨r, hget, hsession⟩, -⟩ := h.carried i t sessionId' id' hi hr hc
  exact ⟨r, hget, hsession ▸ hr⟩

/-- In the class of a start that has made its row, no other row becomes active. -/
theorem Sole.active_carried {w : World} {s : State} {i : Nat} {a : Answer} {t : Task} (h : Sole s)
    (hi : s.tasks.get i = some t) (ha : answers w s a t = true) {sessionId : SessionId} {id id' : RecordingId}
    (hr : t.region = some sessionId) (hc : t.carries = some id)
    (hact : isActiveIn ((move w s a t).1.run s) sessionId id') : id' = id := by
  rcases h.active_before hi ha hact with hold | ⟨organizationId, page, rfl, -⟩ | ⟨-, hc'⟩
  · exact (h.carried i t sessionId id hi hr hc).2 id' hold
  · cases hc
  · rw [hc] at hc'
    exact (Option.some.inj hc').symm

/-- In the class of a start that has not made its row, only that row can become active. -/
theorem Sole.active_fresh {w : World} {s : State} {i : Nat} {a : Answer} {t : Task} (h : Sole s)
    (hi : s.tasks.get i = some t) (ha : answers w s a t = true) {sessionId : SessionId} {id : RecordingId}
    (hr : t.region = some sessionId) (hc : t.carries = none)
    (hact : isActiveIn ((move w s a t).1.run s) sessionId id) :
    (∃ organizationId page, t = .startStage .create sessionId organizationId page) ∧ id = a.id := by
  rcases h.active_before hi ha hact with hold | ⟨organizationId, page, heq, hid⟩ | ⟨-, hc'⟩
  · exact absurd hold (h.fresh i t sessionId hi hr hc id)
  · exact ⟨⟨organizationId, page, heq⟩, hid⟩
  · rw [hc] at hc'
    cases hc'

/-- In a class without this start, no row becomes active. -/
theorem Sole.active_other {w : World} {s : State} {i : Nat} {a : Answer} {t : Task} (h : Sole s)
    (hi : s.tasks.get i = some t) (ha : answers w s a t = true) {sessionId : SessionId} {id : RecordingId}
    (hr : t.region ≠ some sessionId) (hact : isActiveIn ((move w s a t).1.run s) sessionId id) :
    isActiveIn s sessionId id := by
  rcases h.active_before hi ha hact with hold | ⟨organizationId, page, rfl, -⟩ | ⟨hr', -⟩
  · exact hold
  · exact absurd rfl hr
  · exact absurd hr' hr

theorem Sole.resume_one {w : World} {s : State} {i : Nat} {a : Answer} {t : Task} (h : Sole s)
    (hi : s.tasks.get i = some t) (ha : answers w s a t = true) {sessionId : SessionId} {id id' : RecordingId}
    (hact : isActiveIn ((move w s a t).1.run s) sessionId id)
    (hact' : isActiveIn ((move w s a t).1.run s) sessionId id') : id = id' := by
  by_cases hr : t.region = some sessionId
  · cases hc : t.carries with
    | none => rw [(h.active_fresh hi ha hr hc hact).2, (h.active_fresh hi ha hr hc hact').2]
    | some j => rw [h.active_carried hi ha hr hc hact, h.active_carried hi ha hr hc hact']
  · exact h.one sessionId id id' (h.active_other hi ha hr hact) (h.active_other hi ha hr hact')

theorem Sole.resume_single {w : World} {s : State} {i : Nat} {a : Answer} {t : Task} (h : Sole s)
    (hi : s.tasks.get i = some t) (ha : answers w s a t = true) {sessionId : SessionId} {e e' : EgressId}
    (hrun : isRunningIn ((move w s a t).1.run s) sessionId e)
    (hrun' : isRunningIn ((move w s a t).1.run s) sessionId e') : e = e' := by
  have henabled := move_enabled (h.wf.tasks i t hi) ha
  have hd := move_does w s a t
  rcases hd.running_before henabled hrun with hold | ⟨organizationId, id, heq, hnew⟩
  · rcases hd.running_before henabled hrun' with hold' | ⟨organizationId, id, rfl, -⟩
    · exact h.single sessionId e e' hold hold'
    · exact absurd hold (h.quiet i _ sessionId hi rfl e)
  · rcases hd.running_before henabled hrun' with hold' | ⟨-, -, -, hnew'⟩
    · subst heq
      exact absurd hold' (h.quiet i _ sessionId hi rfl e')
    · rw [hnew, hnew']

theorem Sole.resume_fresh {w : World} {s : State} {i : Nat} {a : Answer} {t : Task} (h : Sole s)
    (hi : s.tasks.get i = some t) (ha : answers w s a t = true) {j : Nat} {u : Task} {sessionId : SessionId}
    (hj : (s.tasks.put i (move w s a t).2).get j = some u) (hr : u.region = some sessionId)
    (hc : u.carries = none) (id : RecordingId) : ¬ isActiveIn ((move w s a t).1.run s) sessionId id := by
  intro hact
  rcases Pool.get_put_cases hj with ⟨-, hnew⟩ | ⟨hji, hold⟩
  · have hsucc := move_successor hnew
    rcases hsucc.region hr with hsame | ⟨organizationId, rfl, -, -, hrows⟩
    · obtain ⟨hnone, hcreate⟩ := hsucc.ahead hr hc
      obtain ⟨⟨organizationId, page, heq⟩, -⟩ := h.active_fresh hi ha hsame hnone hact
      exact hcreate sessionId organizationId page heq
    · exact check_free ha hrows id (h.active_other hi ha (by simp [Task.region]) hact)
  · have hother := h.alone j u sessionId hold hr i t (Ne.symm hji) hi
    exact h.fresh j u sessionId hold hr hc id (h.active_other hi ha hother hact)

theorem Sole.resume_carried {w : World} {s : State} {i : Nat} {a : Answer} {t : Task} (h : Sole s)
    (hi : s.tasks.get i = some t) (ha : answers w s a t = true) {j : Nat} {u : Task} {sessionId : SessionId}
    {id : RecordingId} (hj : (s.tasks.put i (move w s a t).2).get j = some u)
    (hr : u.region = some sessionId) (hc : u.carries = some id) :
    (∃ r, ((move w s a t).1.run s).recordings.get id = some r ∧ r.sessionId = sessionId) ∧
      ∀ id', isActiveIn ((move w s a t).1.run s) sessionId id' → id' = id := by
  have hgrows := Effect.grows (move_enabled (h.wf.tasks i t hi) ha)
  have hrow : ∀ {k v}, s.tasks.get k = some v → v.region = some sessionId → v.carries = some id →
      ∃ r, ((move w s a t).1.run s).recordings.get id = some r ∧ r.sessionId = sessionId := by
    intro k v hk hr hc
    obtain ⟨⟨r, hget, hsession⟩, -⟩ := h.carried k v sessionId id hk hr hc
    obtain ⟨r', hget', hsession', -⟩ := hgrows.rows id r hget
    exact ⟨r', hget', hsession'.trans hsession⟩
  rcases Pool.get_put_cases hj with ⟨-, hnew⟩ | ⟨hji, hold⟩
  · rcases (move_successor hnew).carries hc with
      ⟨hcarried, hregion⟩ | ⟨sessionId', organizationId, page, rfl, hr', rfl, hok⟩
    · have hr : t.region = some sessionId := hregion.trans hr
      exact ⟨hrow hi hr hcarried, fun id' hact => h.active_carried hi ha hr hcarried hact⟩
    · rw [hr] at hr'
      cases hr'
      have heff : (move w s a (.startStage .create sessionId organizationId page)).1
          = .create a.id (newRow sessionId organizationId a.now) := call_effect hok _ _ _
      refine ⟨⟨newRow sessionId organizationId a.now, ?_, rfl⟩, fun id' hact => ?_⟩
      · rw [heff]
        exact get_create (Option.isNone_iff_eq_none.1 ha) _
      · exact (h.active_fresh hi ha rfl rfl hact).2
  · have hother := h.alone j u sessionId hold hr i t (Ne.symm hji) hi
    refine ⟨hrow hold hr hc, fun id' hact => ?_⟩
    exact (h.carried j u sessionId id hold hr hc).2 id' (h.active_other hi ha hother hact)

theorem Sole.resume_quiet {w : World} {s : State} {i : Nat} {a : Answer} {t : Task} (h : Sole s)
    (hi : s.tasks.get i = some t) (ha : answers w s a t = true) (hok : apart s (.resume i a) = true)
    {j : Nat} {u : Task} {sessionId : SessionId} (hj : (s.tasks.put i (move w s a t).2).get j = some u)
    (hu : u.unlaunched = some sessionId) (e : EgressId) :
    ¬ isRunningIn ((move w s a t).1.run s) sessionId e := by
  intro hrun
  have hbefore := (move_does w s a t).running_before (move_enabled (h.wf.tasks i t hi) ha) hrun
  rcases Pool.get_put_cases hj with ⟨-, hnew⟩ | ⟨hji, hold⟩
  · rcases (move_successor hnew).unlaunched hu with ⟨hsame, hnot⟩ | ⟨organizationId, rfl, hans, hrows⟩
    · rcases hbefore with hold | ⟨organizationId, id, heq, -⟩
      · exact h.quiet i t sessionId hi hsame e hold
      · exact hnot organizationId id heq
    · rcases hbefore with hold | ⟨_, _, heq, -⟩
      · exact (apart_check hi hok hans hrows).2 e hold
      · cases heq
  · rcases hbefore with hrunning | ⟨organizationId, id, rfl, -⟩
    · exact h.quiet j u sessionId hold hu e hrunning
    · exact h.alone j u sessionId hold (region_of_unlaunched hu) i _ (Ne.symm hji) hi rfl

theorem Sole.resume {w : World} {s : State} {i : Nat} {a : Answer} {t : Task} (h : Sole s)
    (hi : s.tasks.get i = some t) (ha : answers w s a t = true) (hok : apart s (.resume i a) = true) :
    Sole (((move w s a t).1.run s).goto i (move w s a t).2) := by
  have htasks : (((move w s a t).1.run s).goto i (move w s a t).2).tasks = s.tasks.put i (move w s a t).2 := by
    show ((move w s a t).1.run s).tasks.put i _ = _
    rw [Effect.run_tasks]
  constructor
  · exact h.wf.resume hi ha
  · rw [htasks]
    refine h.alone.put i fun sessionId hr => ?_
    obtain ⟨t', ht', hr⟩ := Option.bind_eq_some_iff.1 hr
    rcases (move_successor ht').region hr with hsame | ⟨organizationId, rfl, -, hans, hrows⟩
    · exact h.alone i t sessionId hi hsame
    · exact (apart_check hi hok hans hrows).1
  · exact fun sessionId id id' hact hact' => h.resume_one hi ha hact hact'
  · exact fun sessionId e e' hrun hrun' => h.resume_single hi ha hrun hrun'
  · intro j u sessionId hj
    rw [htasks] at hj
    exact h.resume_fresh hi ha hj
  · intro j u sessionId id hj
    rw [htasks] at hj
    exact h.resume_carried hi ha hj
  · intro j u sessionId hj
    rw [htasks] at hj
    exact h.resume_quiet hi ha hok hj

/-- A request or a tick begins. -/
theorem Sole.spawn {s s' : State} {i : Nat} {t : Task} (h : Sole s) (hs : spawn s i t = some s') (hwf : Wf s')
    (hregion : t.region = none) : Sole s' := by
  unfold Recordings.spawn at hs
  split at hs
  · cases hs
    have htasks : ∀ {j u sessionId}, (s.goto i (some t)).tasks.get j = some u → u.region = some sessionId →
        s.tasks.get j = some u := by
      intro j u sessionId hj hr
      have hj' : (s.tasks.put i (some t)).get j = some u := hj
      rcases Pool.get_put_cases hj' with ⟨-, hu⟩ | ⟨-, hu⟩
      · cases hu
        rw [hregion] at hr
        cases hr
      · exact hu
    refine ⟨hwf, ?_, h.one, h.single, ?_, ?_, ?_⟩
    · refine h.alone.put i fun sessionId hr => ?_
      rw [Option.bind_some, hregion] at hr
      cases hr
    · exact fun j u sessionId hj hr hc => h.fresh j u sessionId (htasks hj hr) hr hc
    · exact fun j u sessionId id hj hr hc => h.carried j u sessionId id (htasks hj hr) hr hc
    · exact fun j u sessionId hj hu => h.quiet j u sessionId (htasks hj (region_of_unlaunched hu)) hu
  · cases hs

/-- LiveKit moves an egress on to a phase in which it does not run. -/
theorem Sole.phase {s : State} {e : EgressId} {p : Phase} (h : Sole s) (hp : p ≠ .running)
    (hwf : Wf { s with egresses := s.egresses.modify e fun g => { g with phase := p } }) :
    Sole { s with egresses := s.egresses.modify e fun g => { g with phase := p } } := by
  have hrunning : ∀ {sessionId e'},
      isRunningIn { s with egresses := s.egresses.modify e fun g => { g with phase := p } } sessionId e' →
      isRunningIn s sessionId e' := by
    intro sessionId e' hrun
    have hrun : Table.get (Table.modify s.egresses e _) e' = some _ := hrun
    rw [Table.get_modify] at hrun
    split at hrun
    · obtain ⟨g, -, hg⟩ := Option.map_eq_some_iff.1 hrun
      exact absurd (congrArg Egress.phase hg) hp
    · exact hrun
  constructor
  · exact hwf
  · exact h.alone
  · exact h.one
  · exact fun sessionId e₁ e₂ h₁ h₂ => h.single sessionId e₁ e₂ (hrunning h₁) (hrunning h₂)
  · exact h.fresh
  · exact h.carried
  · exact fun i t sessionId hi hu e' hrun => h.quiet i t sessionId hi hu e' (hrunning hrun)

theorem Sole.step {w : World} {s s' : State} {e : Event} (h : Sole s) (hok : apart s e = true)
    (hs : step w s e = some s') : Sole s' := by
  have hwf := h.wf.step hs
  cases e with
  | session e =>
    obtain ⟨sessions, -, rfl⟩ := Option.map_eq_some_iff.1 hs
    exact ⟨hwf, h.alone, h.one, h.single, h.fresh, h.carried, h.quiet⟩
  | start i sessionId organizationId => exact h.spawn hs hwf rfl
  | stop i sessionId organizationId => exact h.spawn hs hwf rfl
  | webhook i e =>
    obtain ⟨info, -, hs⟩ := Option.bind_eq_some_iff.1 hs
    exact h.spawn hs hwf rfl
  | tick i => exact h.spawn hs hwf rfl
  | resume i a =>
    obtain ⟨t, hi, hs⟩ := Option.bind_eq_some_iff.1 hs
    split at hs
    · rename_i ha
      cases hs
      exact h.resume hi ha hok
    · cases hs
  | finish e info =>
    obtain ⟨rfl, -⟩ := finished_cases hs
    exact h.phase (by simp) hwf
  | forget e =>
    obtain ⟨info, rfl, -⟩ := forgotten_cases hs
    exact h.phase (by simp) hwf

/-! ## Runs -/

theorem sole_init (sessions : Sessions.State) : Sole (init sessions) where
  wf := wf_init sessions
  alone := Pool.exclusive_empty
  one := by
    rintro sessionId id id' ⟨r, hr, -⟩
    cases hr
  single := by
    intro sessionId e e' hrun
    cases hrun
  fresh := by
    intro i t sessionId hi
    cases hi
  carried := by
    intro i t sessionId id hi
    cases hi
  quiet := by
    intro i t sessionId hi
    cases hi

/-- In a run whose starts stay apart, a class never has two active recordings, and LiveKit never runs two
egresses of one class. -/
theorem one_recording {w : World} {sessions : Sessions.State} {es : List Event} {s : State}
    (hrun : run (step w) (init sessions) es = some s)
    (hok : Meets (step w) (fun s e => apart s e = true) (init sessions) es) :
    (∀ sessionId id id', isActiveIn s sessionId id → isActiveIn s sessionId id' → id = id') ∧
    (∀ sessionId e e', isRunningIn s sessionId e → isRunningIn s sessionId e' → e = e') := by
  have h := run_inv (fun _ _ _ h hok hs => Sole.step h hok hs) (sole_init sessions) hok hrun
  exact ⟨h.one, h.single⟩

namespace Example

/-- Record is pressed again while the recording runs. -/
def pressedAgain : List Event :=
  recorded ++ [.start 1 "class" "org", .resume 1 answer, .resume 1 { answer with rows := ["lesson"] }]

/-- Record is pressed twice at once: both starts find no running row before either makes its own. -/
def pressedTwice : List Event :=
  [.start 0 "class" "org", .start 1 "class" "org"] ++ resumes 0 2 ++ resumes 1 2 ++ resumes 0 7 ++
    List.replicate 7 (.resume 1 { answer with id := "lesson2", egressId := "EG_2" })

def activeRows (sessionId : SessionId) (s : State) : List RecordingId :=
  (s.recordings.entries.filter fun e => e.2.sessionId == sessionId && e.2.status.isActive).map (·.1)

def runningEgresses (sessionId : SessionId) (s : State) : List EgressId :=
  (s.egresses.entries.filter fun e => e.2 == ⟨sessionId, .running⟩).map (·.1)

end Example

open Example in
theorem second_press_refused : ∃ s, run (step world) (init classroom) pressedAgain = some s ∧
    (∀ id, isActiveIn s "class" id → id = "lesson") ∧ ∀ e, isRunningIn s "class" e → e = "EG_1" := by
  have hrun : (run (step world) (init classroom) pressedAgain).map
      (fun s => (statusOfRow "lesson" s, s.egresses.get "EG_1", (s.recordings.get "lesson").map (·.sessionId)))
      = some (some .recording, some ⟨"class", .running⟩, some "class") := by decide
  obtain ⟨s, hs, hx⟩ := Option.map_eq_some_iff.1 hrun
  obtain ⟨hrows, hegresses⟩ := one_recording hs (by decide)
  simp only [Prod.mk.injEq] at hx
  obtain ⟨r, hr, hstatus⟩ := Option.map_eq_some_iff.1 hx.1
  rw [hr, Option.map_some, Option.some.injEq] at hx
  refine ⟨s, hs, fun id hact => ?_, fun e hrunning => ?_⟩
  · exact hrows "class" id "lesson" hact ⟨r, hr, hx.2.2, by rw [hstatus]; rfl⟩
  · exact hegresses "class" e "EG_1" hrunning hx.2.1

open Example in
/-- Two starts that check at the same time both record: two active rows, and two egresses running. -/
theorem two_recordings :
    (run (step world) (init classroom) pressedTwice).map (fun s => (activeRows "class" s, runningEgresses "class" s))
      = some (["lesson", "lesson2"], ["EG_1", "EG_2"]) := by
  decide

end Livetich.Recordings
