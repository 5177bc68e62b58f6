/-
What holds of the recordings in every run, whatever the order of the steps: a row keeps its egress id
once it has one, the egress ids the tasks carry are those of their rows, a row whose start is under way
has none yet, and a result about to be written is LiveKit's own report.
-/
import Livetich.Lib.Checked
import Livetich.Recordings.Steps

namespace Livetich.Recordings

open Livetich.Js Livetich.Lib TransSys

/-! ## What a task carries -/

def Task.next : Task → Next
  | .stopEgress next .. | .stopWrite next _ | .applyFind next _ | .applySize next .. | .applyWrite next .. => next
  | .describe rest .. | .failWrite rest .. => .stuck rest
  | _ => .done

def Next.snaps : Next → List Snap
  | .done => []
  | .ended rest | .overrun rest | .stuck rest => rest

/-- The rows of a main pass that have no egress id: they are to be failed. -/
def Next.bare : Next → List RecordingId
  | .stuck rest => (rest.filter fun r => (truthy r.egressId).isNone).map (·.id)
  | _ => []

/-- The egress a task asks LiveKit about, under its row. -/
def Task.asks : Task → Option (RecordingId × EgressId)
  | .stopEgress _ id e => some (id, e)
  | .describe _ r e => some (r.id, e)
  | _ => none

/-- The row of a start that has not yet been given its egress id. -/
def Task.holds : Task → Option RecordingId
  | .startMint _ _ id | .startEgress _ _ id | .startWrite _ id .. => some id
  | _ => none

/-- The egress a start has launched. -/
def Task.launched : Task → Option EgressId
  | .startWrite _ _ e _ => some e
  | _ => none

/-- The row a stop is about to set to PROCESSING. -/
def Task.turnsBack : Task → Option RecordingId
  | .stopWrite _ id => some id
  | _ => none

/-- The rows a task is about to set to FAILED without a report of LiveKit. -/
def Task.givesUp : Task → List RecordingId
  | .startCatch _ id _ => [id]
  | .failWrite rest id _ => id :: (Next.stuck rest).bare
  | t => t.next.bare

/-- The session of a start that has passed its check for a running row. -/
def Task.region : Task → Option SessionId
  | .startStage _ sessionId .. | .startMint sessionId .. | .startEgress sessionId .. | .startWrite sessionId ..
  | .startCatch sessionId .. => some sessionId
  | _ => none

/-- The row a start has made. -/
def Task.carries : Task → Option RecordingId
  | .startMint _ _ id | .startEgress _ _ id | .startWrite _ id .. | .startCatch _ id _ => some id
  | _ => none

/-! ## What stays -/

def Has (s : State) (id : RecordingId) (e : EgressId) : Prop :=
  ∃ r, s.recordings.get id = some r ∧ r.egressId = some e

def reportOf (s : State) (e : EgressId) : Option EgressInfo := (phaseOf s e).bind Phase.report

def statusOf (info : EgressInfo) : ResultStatus := if info.status = .complete then .complete else .failed

def ResultStatus.row : ResultStatus → RecordingStatus
  | .complete => .ready
  | .failed => .failed

/-- A write of `applyEgressResult`: it sets the status and leaves the egress id and the session. -/
def Writes (status : ResultStatus) (write : Recording → Recording) : Prop :=
  ∀ r, (write r).status = status.row ∧ (write r).egressId = r.egressId ∧ (write r).sessionId = r.sessionId

/-- The result a task is about to write is what LiveKit reports. -/
def Task.Reports (s : State) : Task → Prop
  | .applyFind _ result => ∃ info, reportOf s result.egressId = some info ∧ result.status = statusOf info
  | .applySize _ id _ result => Has s id result.egressId ∧
      ∃ info, reportOf s result.egressId = some info ∧ result.status = statusOf info
  | .applyWrite _ id status write => Writes status write ∧
      ∃ e info, Has s id e ∧ reportOf s e = some info ∧ status = statusOf info
  | _ => True

structure TaskOk (s : State) (t : Task) : Prop where
  snaps : ∀ r e, r ∈ t.next.snaps → truthy r.egressId = some e → Has s r.id e
  asks : ∀ id e, t.asks = some (id, e) → Has s id e
  holds : ∀ id, t.holds = some id → ∃ r, s.recordings.get id = some r ∧ r.egressId = none
  launched : ∀ e, t.launched = some e → (s.egresses.get e).isSome = true
  reports : t.Reports s

structure Wf (s : State) : Prop where
  tasks : ∀ i t, s.tasks.get i = some t → TaskOk s t
  once : s.tasks.Exclusive Task.holds
  /-- LiveKit's ids are not empty, and a row's egress id is one of them. -/
  named : s.egresses.get "" = none
  known : ∀ id e, Has s id e → (s.egresses.get e).isSome = true
  /-- A report names its egress. -/
  keyed : ∀ e info, reportOf s e = some info → info.egressId = e

/-- Rows, their egress ids, egresses and reports stay. -/
structure Grows (s s' : State) : Prop where
  rows : ∀ id r, s.recordings.get id = some r → ∃ r', s'.recordings.get id = some r' ∧
    r'.sessionId = r.sessionId ∧ ∀ e, r.egressId = some e → r'.egressId = some e
  egresses : ∀ e, (s.egresses.get e).isSome = true → (s'.egresses.get e).isSome = true
  reports : ∀ e info, reportOf s e = some info → reportOf s' e = some info

theorem Grows.refl (s : State) : Grows s s :=
  ⟨fun _ r hr => ⟨r, hr, rfl, fun _ he => he⟩, fun _ h => h, fun _ _ h => h⟩

theorem Grows.has {s s' : State} (h : Grows s s') {id : RecordingId} {e : EgressId} (hr : Has s id e) :
    Has s' id e := by
  obtain ⟨r, hr, he⟩ := hr
  obtain ⟨r', hr', -, hkeep⟩ := h.rows id r hr
  exact ⟨r', hr', hkeep e he⟩

theorem Has.unique {s : State} {id : RecordingId} {e e' : EgressId} (h : Has s id e) (h' : Has s id e') :
    e = e' := by
  obtain ⟨r, hr, he⟩ := h
  obtain ⟨r', hr', he'⟩ := h'
  rw [hr] at hr'
  cases hr'
  exact Option.some.inj (he.symm.trans he')

theorem Task.Reports.mono {s s' : State} {t : Task} (h : t.Reports s) (hg : Grows s s') : t.Reports s' := by
  cases t with
  | applyFind next result =>
    obtain ⟨info, hinfo, hst⟩ := h
    exact ⟨info, hg.reports _ _ hinfo, hst⟩
  | applySize next id key result =>
    obtain ⟨hhas, info, hinfo, hst⟩ := h
    exact ⟨hg.has hhas, info, hg.reports _ _ hinfo, hst⟩
  | applyWrite next id status write =>
    obtain ⟨hw, e, info, hhas, hinfo, hst⟩ := h
    exact ⟨hw, e, info, hg.has hhas, hg.reports _ _ hinfo, hst⟩
  | _ => trivial

/-- A task's facts survive a step that gives its row no egress id. -/
theorem TaskOk.mono {s s' : State} {t : Task} (h : TaskOk s t) (hg : Grows s s')
    (hheld : ∀ id r, t.holds = some id → s.recordings.get id = some r → r.egressId = none →
      ∃ r', s'.recordings.get id = some r' ∧ r'.egressId = none) : TaskOk s' t where
  snaps := fun r e hr he => hg.has (h.snaps r e hr he)
  asks := fun id e ha => hg.has (h.asks id e ha)
  holds := by
    intro id hid
    obtain ⟨r, hr, hnone⟩ := h.holds id hid
    exact hheld id r hid hr hnone
  launched := fun e he => hg.egresses e (h.launched e he)
  reports := h.reports.mono hg

/-! ## Effects -/

/-- What an effect needs of the state it runs in. -/
def Effect.Enabled (s : State) : Effect → Prop
  | .create id row => s.recordings.get id = none ∧ row.egressId = none
  | .recording id e _ => (∃ r, s.recordings.get id = some r ∧ r.egressId = none) ∧
      (s.egresses.get e).isSome = true
  | .result _ status write => Writes status write
  | .launch e _ => s.egresses.get e = none ∧ e ≠ ""
  | .halt e => phaseOf s e = some .running
  | _ => True

/-- Modifying a row in a way that keeps its session and its egress id. -/
theorem grows_modify {s : State} {id : RecordingId} {f : Recording → Recording}
    {reported : List (RecordingId × ResultStatus)}
    (hf : ∀ r, s.recordings.get id = some r →
      (f r).sessionId = r.sessionId ∧ ∀ e, r.egressId = some e → (f r).egressId = some e) :
    Grows s { s with recordings := s.recordings.modify id f, reported } where
  rows := by
    intro j r hr
    by_cases hj : j = id
    · subst hj
      obtain ⟨hsession, hegress⟩ := hf r hr
      exact ⟨f r, by rw [Table.get_modify_self, hr]; rfl, hsession, hegress⟩
    · exact ⟨r, (Table.get_modify_of_ne _ _ hj).trans hr, rfl, fun _ he => he⟩
  egresses := fun _ h => h
  reports := fun _ _ h => h

theorem phaseOf_modify (s : State) (e : EgressId) (p : Phase) (e' : EgressId) :
    phaseOf { s with egresses := s.egresses.modify e fun g => { g with phase := p } } e'
      = if e' = e then (phaseOf s e).map fun _ => p else phaseOf s e' := by
  unfold phaseOf
  rw [Table.get_modify]
  by_cases he : e' = e
  · rw [if_pos he, if_pos he, he, Option.map_map, Option.map_map]
    rfl
  · rw [if_neg he, if_neg he]

/-- An egress may go on to a phase with the same report, if it has one already. -/
theorem grows_phase {s : State} {e : EgressId} {p : Phase}
    (hp : ∀ info, reportOf s e = some info → p.report = some info) :
    Grows s { s with egresses := s.egresses.modify e fun g => { g with phase := p } } where
  rows := fun _ r hr => ⟨r, hr, rfl, fun _ he => he⟩
  egresses := by
    intro e' he'
    show ((s.egresses.modify e _).get e').isSome = true
    rw [Table.get_modify]
    split
    · rename_i heq
      subst heq
      rw [Option.isSome_map]
      exact he'
    · exact he'
  reports := by
    intro e' info hinfo
    unfold reportOf
    rw [phaseOf_modify]
    by_cases heq : e' = e
    · subst heq
      rw [if_pos rfl]
      unfold reportOf at hinfo
      obtain ⟨q, hq, hqi⟩ := Option.bind_eq_some_iff.1 hinfo
      rw [hq]
      exact hp info (by unfold reportOf; rw [hq]; exact hqi)
    · rw [if_neg heq]
      exact hinfo

theorem grows_launch {s : State} {e : EgressId} {sessionId : SessionId} (h : s.egresses.get e = none) :
    Grows s { s with egresses := s.egresses.insert e ⟨sessionId, .running⟩ } where
  rows := fun _ r hr => ⟨r, hr, rfl, fun _ he => he⟩
  egresses := by
    intro e' he'
    show ((s.egresses.insert e _).get e').isSome = true
    rw [Table.get_insert h]
    split
    · rfl
    · exact he'
  reports := by
    intro e' info hinfo
    unfold reportOf phaseOf at hinfo ⊢
    rw [Table.get_insert h]
    split
    · rename_i heq
      rw [heq, h] at hinfo
      cases hinfo
    · exact hinfo

theorem Effect.grows {s : State} {e : Effect} (h : e.Enabled s) : Grows s (e.run s) := by
  cases e with
  | silent => exact Grows.refl s
  | create id row =>
    refine ⟨fun j r hr => ⟨r, ?_, rfl, fun _ he => he⟩, fun _ h => h, fun _ _ h => h⟩
    show Table.get (Table.insert s.recordings id row) j = some r
    rw [Table.get_insert h.1, if_neg, hr]
    rintro rfl
    rw [h.1] at hr
    cases hr
  | recording id e key =>
    obtain ⟨⟨r, hr, hnone⟩, -⟩ := h
    refine grows_modify fun r' hr' => ⟨rfl, fun e' he' => ?_⟩
    rw [hr] at hr'
    cases hr'
    rw [hnone] at he'
    cases he'
  | processing id => exact grows_modify fun _ _ => ⟨rfl, fun _ he => he⟩
  | fail id error => exact grows_modify fun _ _ => ⟨rfl, fun _ he => he⟩
  | result id status write =>
    refine grows_modify fun r _ => ⟨(h r).2.2, fun e he => ?_⟩
    rw [(h r).2.1]
    exact he
  | launch e sessionId => exact grows_launch h.1
  | halt e =>
    refine grows_phase fun info hinfo => ?_
    unfold reportOf at hinfo
    rw [show phaseOf s e = some .running from h] at hinfo
    cases hinfo

/-- The egress ids of the rows after an effect are those of before, and one a start has launched. -/
theorem Effect.known {s : State} {e : Effect} (h : e.Enabled s)
    (hknown : ∀ id e, Has s id e → (s.egresses.get e).isSome = true) {id : RecordingId} {e' : EgressId}
    (hhas : Has (e.run s) id e') : ((e.run s).egresses.get e').isSome = true := by
  have hg := Effect.grows h
  have hmodify : ∀ (j : RecordingId) (f : Recording → Recording),
      (∀ r, s.recordings.get j = some r → (f r).egressId = r.egressId) →
      ∀ r, (s.recordings.modify j f).get id = some r → r.egressId = some e' →
      (s.egresses.get e').isSome = true := by
    intro j f hf r hr he
    by_cases hj : id = j
    · subst hj
      rw [Table.get_modify_self] at hr
      obtain ⟨q, hq, rfl⟩ := Option.map_eq_some_iff.1 hr
      exact hknown id e' ⟨q, hq, (hf q hq).symm.trans he⟩
    · rw [Table.get_modify_of_ne _ _ hj] at hr
      exact hknown id e' ⟨r, hr, he⟩
  obtain ⟨r, hr, he⟩ := hhas
  cases e with
  | silent => exact hknown id e' ⟨r, hr, he⟩
  | create j row =>
    have hr : (s.recordings.insert j row).get id = some r := hr
    rw [Table.get_insert h.1] at hr
    split at hr
    · cases hr
      rw [h.2] at he
      cases he
    · exact hknown id e' ⟨r, hr, he⟩
  | recording j e key =>
    have hr : (s.recordings.modify j (recordingRow e key)).get id = some r := hr
    by_cases hj : id = j
    · subst hj
      rw [Table.get_modify_self] at hr
      obtain ⟨q, -, rfl⟩ := Option.map_eq_some_iff.1 hr
      cases he
      exact h.2
    · rw [Table.get_modify_of_ne _ _ hj] at hr
      exact hknown id e' ⟨r, hr, he⟩
  | processing j => exact hmodify j processingRow (fun _ _ => rfl) r hr he
  | fail j error => exact hmodify j (erroredRow error) (fun _ _ => rfl) r hr he
  | result j status write => exact hmodify j write (fun r _ => (h r).2.1) r hr he
  | launch e sessionId => exact hg.egresses e' (hknown id e' ⟨r, hr, he⟩)
  | halt e => exact hg.egresses e' (hknown id e' ⟨r, hr, he⟩)

/-- No effect of ours makes a report. -/
theorem Effect.reports {s : State} {e : Effect} (h : e.Enabled s) {e' : EgressId} {info : EgressInfo}
    (hinfo : reportOf (e.run s) e' = some info) : reportOf s e' = some info := by
  cases e with
  | launch e sessionId =>
    have hinfo : reportOf { s with egresses := s.egresses.insert e ⟨sessionId, .running⟩ } e' = some info := hinfo
    unfold reportOf phaseOf at hinfo ⊢
    simp only [Table.get_insert h.1] at hinfo
    split at hinfo
    · cases hinfo
    · exact hinfo
  | halt e =>
    have hinfo : reportOf { s with egresses := s.egresses.modify e fun g => { g with phase := .ending } } e'
      = some info := hinfo
    unfold reportOf at hinfo ⊢
    rw [phaseOf_modify] at hinfo
    split at hinfo
    · cases hp : phaseOf s e with
      | none => rw [hp] at hinfo; cases hinfo
      | some p => rw [hp] at hinfo; cases hinfo
    · exact hinfo
  | _ => exact hinfo

/-- Only the start that holds a row gives it its egress id. -/
theorem Effect.held {s : State} {e : Effect} (h : e.Enabled s) {id : RecordingId} {r : Recording}
    (hother : ∀ e' key, e ≠ .recording id e' key) (hr : s.recordings.get id = some r)
    (hnone : r.egressId = none) :
    ∃ r', (e.run s).recordings.get id = some r' ∧ r'.egressId = none := by
  have hmodify : ∀ (j : RecordingId) (f : Recording → Recording),
      (j = id → (f r).egressId = r.egressId) →
      ∃ r', (s.recordings.modify j f).get id = some r' ∧ r'.egressId = none := by
    intro j f hf
    by_cases hj : id = j
    · subst hj
      exact ⟨f r, by rw [Table.get_modify_self, hr]; rfl, (hf rfl).trans hnone⟩
    · exact ⟨r, (Table.get_modify_of_ne _ _ hj).trans hr, hnone⟩
  cases e with
  | create j row =>
    refine ⟨r, ?_, hnone⟩
    show Table.get (Table.insert s.recordings j row) id = some r
    rw [Table.get_insert h.1, if_neg, hr]
    rintro rfl
    rw [h.1] at hr
    cases hr
  | recording j e' key =>
    refine hmodify j _ ?_
    rintro rfl
    exact absurd rfl (hother e' key)
  | processing j => exact hmodify j processingRow fun _ => rfl
  | fail j error => exact hmodify j (erroredRow error) fun _ => rfl
  | result j status write => exact hmodify j write fun _ => (h r).2.1
  | _ => exact ⟨r, hr, hnone⟩

/-! ## The next task -/

theorem applied_writes {storage : ObjectStorage} {now : Int} {key : Option String} {result : EgressResult}
    {write : Recording → Recording} (h : applied storage now key result = .ok write) :
    Writes result.status write := by
  unfold applied at h
  cases hst : result.status with
  | failed =>
    rw [hst] at h
    cases h
    exact fun r => ⟨rfl, rfl, rfl⟩
  | complete =>
    rw [hst] at h
    obtain ⟨size, -, h⟩ := bind_ok_iff.1 h
    obtain ⟨duration, -, h⟩ := bind_ok_iff.1 h
    cases h
    exact fun r => ⟨rfl, rfl, rfl⟩

/-- A task that goes on with the rest of a pass. -/
structure Follows (next : Next) (t : Task) : Prop where
  snaps : ∀ r ∈ t.next.snaps, r ∈ next.snaps
  asks : ∀ id e, t.asks = some (id, e) → ∃ r ∈ next.snaps, r.id = id ∧ truthy r.egressId = some e
  givesUp : ∀ id ∈ t.givesUp, id ∈ next.bare
  turnsBack : t.turnsBack = none
  holds : t.holds = none
  launched : t.launched = none
  region : t.region = none
  carries : t.carries = none
  reports : ∀ s, t.Reports s

theorem follows_find {next : Next} {t : Task} (h : t = .overFind ∨ t = .stuckFind) : Follows next t := by
  rcases h with rfl | rfl <;> constructor <;> simp [Task.next, Next.snaps, Next.bare, Task.asks, Task.givesUp,
    Task.turnsBack, Task.holds, Task.launched, Task.region, Task.carries, Task.Reports]

theorem endedFrom_follows : ∀ l : List Snap, Follows (.ended l) (endedFrom l)
  | [] => follows_find (.inl rfl)
  | r :: rest => by
    unfold endedFrom
    split
    · rename_i e he
      constructor <;> simp [Task.next, Next.snaps, Next.bare, Task.asks, Task.givesUp, Task.turnsBack,
        Task.holds, Task.launched, Task.region, Task.carries, Task.Reports]
      · exact fun q hq => .inr hq
      · exact .inl he
    · have h := endedFrom_follows rest
      refine { h with snaps := fun q hq => List.mem_cons_of_mem _ (h.snaps q hq), asks := ?_, givesUp := h.givesUp }
      intro id e ha
      obtain ⟨q, hq, hqe⟩ := h.asks id e ha
      exact ⟨q, List.mem_cons_of_mem _ hq, hqe⟩

theorem overFrom_follows (now : Int) : ∀ l : List Snap, Follows (.overrun l) (overFrom now l)
  | [] => follows_find (.inr rfl)
  | r :: rest => by
    unfold overFrom
    split
    · rename_i e hover he
      constructor <;> simp [Task.next, Next.snaps, Next.bare, Task.asks, Task.givesUp, Task.turnsBack,
        Task.holds, Task.launched, Task.region, Task.carries, Task.Reports]
      · exact fun q hq => .inr hq
      · exact .inl he
    · have h := overFrom_follows now rest
      refine { h with snaps := fun q hq => List.mem_cons_of_mem _ (h.snaps q hq), asks := ?_, givesUp := h.givesUp }
      intro id e ha
      obtain ⟨q, hq, hqe⟩ := h.asks id e ha
      exact ⟨q, List.mem_cons_of_mem _ hq, hqe⟩

theorem mem_bare {l : List Snap} {id : RecordingId} :
    id ∈ (Next.stuck l).bare ↔ ∃ r ∈ l, truthy r.egressId = none ∧ r.id = id := by
  simp [Next.bare, and_assoc]

theorem stuckFrom_follows {l : List Snap} {t : Task} (h : stuckFrom l = some t) : Follows (.stuck l) t := by
  cases l with
  | nil => cases h
  | cons r rest =>
    have hbare : ∀ id ∈ (Next.stuck rest).bare, id ∈ (Next.stuck (r :: rest)).bare := by
      intro id hid
      obtain ⟨q, hq, hqe⟩ := mem_bare.1 hid
      exact mem_bare.2 ⟨q, List.mem_cons_of_mem _ hq, hqe⟩
    cases he : truthy r.egressId with
    | some e =>
      have ht : stuckFrom (r :: rest) = some (.describe rest r e) := by
        simp only [stuckFrom, he]
      rw [ht] at h
      cases h
      refine ⟨fun q hq => List.mem_cons_of_mem _ hq, fun id e' ha => ?_, hbare, rfl, rfl, rfl, rfl, rfl,
        fun _ => trivial⟩
      cases ha
      exact ⟨r, by simp [Next.snaps], rfl, he⟩
    | none =>
      have ht : stuckFrom (r :: rest) = some (.failWrite rest r.id "Recording never started") := by
        simp only [stuckFrom, he]
      rw [ht] at h
      cases h
      refine ⟨fun q hq => List.mem_cons_of_mem _ hq, fun id e' ha => (by cases ha), fun id hid => ?_, rfl, rfl,
        rfl, rfl, rfl, fun _ => trivial⟩
      rcases List.mem_cons.1 hid with rfl | hid
      · exact mem_bare.2 ⟨r, by simp, he, rfl⟩
      · exact hbare id hid

theorem goOn_follows {now : Int} {next : Next} {t : Task} (h : goOn now next = some t) : Follows next t := by
  cases next with
  | done => cases h
  | ended rest => cases h; exact endedFrom_follows rest
  | overrun rest => cases h; exact overFrom_follows now rest
  | stuck rest => exact stuckFrom_follows h

/-- The rest of a pass carries what it was read with. -/
theorem TaskOk.follow {s : State} {next : Next} {t : Task} (h : Follows next t)
    (hsnaps : ∀ r e, r ∈ next.snaps → truthy r.egressId = some e → Has s r.id e) : TaskOk s t where
  snaps := fun r e hr he => hsnaps r e (h.snaps r hr) he
  asks := by
    intro id e ha
    obtain ⟨r, hr, rfl, he⟩ := h.asks id e ha
    exact hsnaps r e hr he
  holds := by
    intro id hid
    rw [h.holds] at hid
    cases hid
  launched := by
    intro e he
    rw [h.launched] at he
    cases he
  reports := h.reports s

/-- A task that carries nothing. -/
theorem TaskOk.plain {s : State} {t : Task} (hnext : t.next = .done) (hasks : t.asks = none)
    (hholds : t.holds = none) (hlaunched : t.launched = none) (hreports : t.Reports s) : TaskOk s t where
  snaps := by
    intro r e hr
    rw [hnext] at hr
    cases hr
  asks := by
    intro id e ha
    rw [hasks] at ha
    cases ha
  holds := by
    intro id hid
    rw [hholds] at hid
    cases hid
  launched := by
    intro e he
    rw [hlaunched] at he
    cases he
  reports := hreports

/-- What each task's step does. -/
inductive Does (a : Answer) : Task → Effect → Prop
  | silent {t} : Does a t .silent
  | create {sessionId organizationId page} (commits : a.commits = true) :
      Does a (.startStage .create sessionId organizationId page)
        (.create a.id (newRow sessionId organizationId a.now))
  | launch {sessionId organizationId id} (commits : a.commits = true) :
      Does a (.startEgress sessionId organizationId id) (.launch a.egressId sessionId)
  | recording {sessionId id e key} (commits : a.commits = true) :
      Does a (.startWrite sessionId id e key) (.recording id e key)
  | caught {sessionId id error} : Does a (.startCatch sessionId id error) (.fail id error)
  | halt {next id e} (commits : a.commits = true) : Does a (.stopEgress next id e) (.halt e)
  | processing {next id} : Does a (.stopWrite next id) (.processing id)
  | result {next id st write} (commits : a.commits = true) :
      Does a (.applyWrite next id st write) (.result id st write)
  | failed {rest id error} : Does a (.failWrite rest id error) (.fail id error)

theorem move_does (w : World) (s : State) (a : Answer) (t : Task) : Does a t (move w s a t).1 := by
  have hcall : ∀ {eff : Effect} {x y : Option Task}, (a.commits = true → Does a t eff) →
      Does a t (call a eff x y).1 := by
    intro eff x y heff
    unfold call
    by_cases h : a.commits = true
    · rw [if_pos h]
      exact heff h
    · rw [if_neg h]
      exact .silent
  cases t with
  | startStage stage sessionId organizationId page =>
    cases stage with
    | create => exact hcall .create
    | _ => exact .silent
  | startEgress sessionId organizationId id => exact hcall .launch
  | startWrite sessionId id e key => exact hcall .recording
  | startCatch sessionId id error => exact hcall fun _ => .caught
  | stopEgress next id e => exact hcall .halt
  | stopWrite next id => exact hcall fun _ => .processing
  | applyWrite next id status write => exact hcall .result
  | failWrite rest id error => exact hcall fun _ => .failed
  | _ => exact .silent

theorem Does.enabled {w : World} {s : State} {a : Answer} {t : Task} {e : Effect} (hd : Does a t e)
    (h : TaskOk s t) (ha : answers w s a t = true) : e.Enabled s := by
  cases hd with
  | create _ => exact ⟨Option.isNone_iff_eq_none.1 ha, rfl⟩
  | launch _ =>
    simp only [answers, Bool.and_eq_true, Option.isNone_iff_eq_none, bne_iff_ne] at ha
    exact ha
  | recording _ => exact ⟨h.holds _ rfl, h.launched _ rfl⟩
  | halt hc =>
    simp only [answers, hc, Bool.not_true, Bool.false_or, isRunning, beq_iff_eq] at ha
    exact ha
  | result _ => exact h.reports.1
  | _ => trivial

theorem move_enabled {w : World} {s : State} {a : Answer} {t : Task} (h : TaskOk s t)
    (ha : answers w s a t = true) : (move w s a t).1.Enabled s :=
  (move_does w s a t).enabled h ha

/-- The one task that gives a row its egress id is the start that holds it. -/
theorem move_recording {w : World} {s : State} {a : Answer} {t : Task} {id : RecordingId} {e : EgressId}
    {key : String} (h : (move w s a t).1 = .recording id e key) : t.holds = some id := by
  have hd := move_does w s a t
  rw [h] at hd
  cases hd
  rfl

theorem call_ok {a : Answer} {eff : Effect} {x y : Option Task} {t : Task}
    (h : (call a eff x y).2 = some t) :
    (a.ok = true ∧ (call a eff x y).1 = eff ∧ x = some t) ∨ (a.ok = false ∧ y = some t) := by
  unfold call at h ⊢
  by_cases hok : a.ok = true
  · have hcommits : a.commits = true := by
      simp only [Answer.ok, beq_iff_eq] at hok
      simp [Answer.commits, hok]
    rw [if_pos hok] at h
    exact .inl ⟨hok, if_pos hcommits, h⟩
  · rw [if_neg hok] at h
    exact .inr ⟨by simpa using hok, h⟩

theorem reads_ok {a : Answer} {x y : Option Task} {t : Task} (h : (reads a x y).2 = some t) :
    (a.ok = true ∧ x = some t) ∨ (a.ok = false ∧ y = some t) := by
  unfold reads at h
  by_cases hok : a.ok = true
  · rw [if_pos hok] at h
    exact .inl ⟨hok, h⟩
  · rw [if_neg hok] at h
    exact .inr ⟨by simpa using hok, h⟩

theorem snaps_has {w : World} {s : State} {ids : List RecordingId} {r : Snap} (hr : r ∈ snaps w s ids) :
    ∃ row, r.id ∈ ids ∧ s.recordings.get r.id = some row ∧ row.egressId = r.egressId ∧
      row.createdAt = r.createdAt := by
  obtain ⟨id, hid, hrow⟩ := List.mem_filterMap.1 hr
  obtain ⟨row, hget, rfl⟩ := Option.map_eq_some_iff.1 hrow
  exact ⟨row, hid, hget, rfl, rfl⟩

theorem webhookResult_status (info : EgressInfo) : (webhookResult info).status = statusOf info := rfl

theorem pulledResult_status (e : EgressId) (info : EgressInfo) :
    (pulledResult e (described info)).status = statusOf info := by
  simp [pulledResult, described, statusOf]

/-- What a task goes on as. -/
inductive Successor (w : World) (s : State) (a : Answer) : Task → Task → Prop
  | mayStart {sessionId organizationId} :
      Successor w s a (.startSession sessionId organizationId) (.startRunning sessionId organizationId)
  | notRunning {sessionId organizationId} (ok : a.ok = true) (rows : a.rows = []) :
      Successor w s a (.startRunning sessionId organizationId) (.startStage .urls sessionId organizationId false)
  | stage {st st' sessionId organizationId page page'} (before : st ≠ .create) :
      Successor w s a (.startStage st sessionId organizationId page) (.startStage st' sessionId organizationId page')
  | createdPage {sessionId organizationId page} (ok : a.ok = true) :
      Successor w s a (.startStage .create sessionId organizationId page) (.startMint sessionId organizationId a.id)
  | created {sessionId organizationId page} (ok : a.ok = true) :
      Successor w s a (.startStage .create sessionId organizationId page) (.startEgress sessionId organizationId a.id)
  | minted {sessionId organizationId id} :
      Successor w s a (.startMint sessionId organizationId id) (.startEgress sessionId organizationId id)
  | launched {sessionId organizationId id} (ok : a.ok = true) :
      Successor w s a (.startEgress sessionId organizationId id)
        (.startWrite sessionId id a.egressId (storageKey organizationId id))
  | mintCatch {sessionId organizationId id} :
      Successor w s a (.startMint sessionId organizationId id) (.startCatch sessionId id a.error)
  | egressCatch {sessionId organizationId id} (ok : a.ok = false) :
      Successor w s a (.startEgress sessionId organizationId id) (.startCatch sessionId id a.error)
  | writeCatch {sessionId id e key} (ok : a.ok = false) :
      Successor w s a (.startWrite sessionId id e key) (.startCatch sessionId id a.error)
  | ask {sessionId organizationId id e} (row : Has s id e) :
      Successor w s a (.stopFind sessionId organizationId) (.stopEgress .done id e)
  /-- `stop` found a row without an egress id. -/
  | skip {sessionId organizationId id r} (head : a.rows.head? = some id) (row : s.recordings.get id = some r)
      (egress : truthy r.egressId = none) :
      Successor w s a (.stopFind sessionId organizationId) (.stopWrite .done id)
  | stopped {next id e} (ok : a.ok = true) : Successor w s a (.stopEgress next id e) (.stopWrite next id)
  | follow {t t'} (h : Follows t.next t') : Successor w s a t t'
  | needsSize {next result id key} (row : Has s id result.egressId) :
      Successor w s a (.applyFind next result) (.applySize next id key result)
  | found {next result id write} (row : Has s id result.egressId) (writes : Writes result.status write) :
      Successor w s a (.applyFind next result) (.applyWrite next id result.status write)
  | sized {next id key result write} (writes : Writes result.status write) :
      Successor w s a (.applySize next id key result) (.applyWrite next id result.status write)
  | ended {t'} (h : Follows (.ended (snaps w s a.rows)) t') : Successor w s a .endedFind t'
  | overrun {t'} (h : Follows (.overrun (snaps w s a.rows)) t') : Successor w s a .overFind t'
  | stuck {t'} (h : Follows (.stuck (snaps w s a.rows)) t') : Successor w s a .stuckFind t'
  | report {rest r e info} (phase : phaseOf s e = some (.closed info)) :
      Successor w s a (.describe rest r e) (.applyFind (.stuck rest) (pulledResult e (described info)))
  /-- LiveKit has no record of the egress. -/
  | unknown {rest r e error} (phase : (phaseOf s e = none ∨ ∃ info, phaseOf s e = some (.forgotten info)))
      (ok : a.ok = true) (abandoned : ABANDON_MS < a.now - r.createdAt) :
      Successor w s a (.describe rest r e) (.failWrite rest r.id error)

theorem afterFind_successor {w : World} {s : State} {a : Answer} {next : Next} {result : EgressResult}
    {id : RecordingId} {r : Recording} {t' : Task} (hfind : findUnique s.recordings result.egressId = some (id, r))
    (ht : afterFind a.now next result id r = some t') : Successor w s a (.applyFind next result) t' := by
  obtain ⟨hget, he⟩ := get_of_findUnique hfind
  unfold afterFind at ht
  split at ht
  · cases ht
    exact .needsSize ⟨r, hget, he⟩
  · split at ht
    · rename_i write hwrite
      cases ht
      exact .found ⟨r, hget, he⟩ (applied_writes hwrite)
    · exact .follow (goOn_follows ht)

theorem startStage_successor {w : World} {s : State} {a : Answer} {sessionId : SessionId}
    {organizationId : OrganizationId} {page : Bool} {stage : Stage} {t' : Task}
    (ht : (startStage a sessionId organizationId page stage).2 = some t') :
    Successor w s a (.startStage stage sessionId organizationId page) t' := by
  cases stage with
  | urls =>
    rcases reads_ok ht with ⟨-, hx⟩ | ⟨-, hx⟩
    · split at hx
      · cases hx
        exact .stage (by decide)
      · split at hx
        · cases hx
          exact .stage (by decide)
        · cases hx
    · cases hx
  | publisher =>
    rcases reads_ok ht with ⟨-, hx⟩ | ⟨-, hx⟩
    · split at hx
      · cases hx
        exact .stage (by decide)
      · cases hx
    · cases hx
  | settings =>
    rcases reads_ok ht with ⟨-, hx⟩ | ⟨-, hx⟩
    · cases hx
      exact .stage (by decide)
    · cases hx
  | usage =>
    rcases reads_ok ht with ⟨-, hx⟩ | ⟨-, hx⟩
    · split at hx
      · cases hx
      · cases hx
        exact .stage (by decide)
    · cases hx
  | create =>
    rcases call_ok ht with ⟨hok, -, hx⟩ | ⟨-, hx⟩
    · split at hx
      · cases hx
        exact .createdPage hok
      · cases hx
        exact .created hok
    · cases hx

theorem describe_successor {w : World} {s : State} {a : Answer} {rest : List Snap} {r : Snap} {e : EgressId}
    {t' : Task} (ht : (move w s a (.describe rest r e)).2 = some t') :
    Successor w s a (.describe rest r e) t' := by
  have hunknown : (phaseOf s e = none ∨ ∃ info, phaseOf s e = some (.forgotten info)) → a.ok = true →
      (if ABANDON_MS < a.now - r.createdAt then
        some (Task.failWrite rest r.id "LiveKit has no record of this recording")
      else stuckFrom rest) = some t' → Successor w s a (.describe rest r e) t' := by
    intro hphase hok hx
    split at hx
    · rename_i habandon
      cases hx
      exact .unknown hphase hok habandon
    · exact .follow (stuckFrom_follows hx)
  rcases reads_ok ht with ⟨hok, hx⟩ | ⟨-, hx⟩
  · split at hx
    · exact .follow (stuckFrom_follows hx)
    · exact .follow (stuckFrom_follows hx)
    · rename_i info hphase
      cases hx
      exact .report hphase
    · rename_i info hphase
      exact hunknown (.inr ⟨info, hphase⟩) hok hx
    · rename_i hphase
      exact hunknown (.inl hphase) hok hx
  · exact .follow (stuckFrom_follows hx)

theorem move_successor {w : World} {s : State} {a : Answer} {t t' : Task} (ht : (move w s a t).2 = some t') :
    Successor w s a t t' := by
  cases t with
  | startSession sessionId organizationId =>
    rcases reads_ok ht with ⟨-, hx⟩ | ⟨-, hx⟩
    · split at hx
      · cases hx
        exact .mayStart
      · cases hx
    · cases hx
  | startRunning sessionId organizationId =>
    rcases reads_ok ht with ⟨hok, hx⟩ | ⟨-, hx⟩
    · split at hx
      · rename_i hempty
        cases hx
        exact .notRunning hok (List.isEmpty_iff.1 hempty)
      · cases hx
    · cases hx
  | startStage stage sessionId organizationId page => exact startStage_successor ht
  | startMint sessionId organizationId id =>
    rcases reads_ok ht with ⟨-, hx⟩ | ⟨-, hx⟩
    · cases hx
      exact .minted
    · cases hx
      exact .mintCatch
  | startEgress sessionId organizationId id =>
    rcases call_ok ht with ⟨hok, -, hx⟩ | ⟨hok, hx⟩
    · cases hx
      exact .launched hok
    · cases hx
      exact .egressCatch hok
  | startWrite sessionId id e key =>
    rcases call_ok ht with ⟨-, -, hx⟩ | ⟨hok, hx⟩
    · cases hx
    · cases hx
      exact .writeCatch hok
  | startCatch sessionId id error =>
    rcases call_ok ht with ⟨-, -, hx⟩ | ⟨-, hx⟩ <;> cases hx
  | stopFind sessionId organizationId =>
    rcases reads_ok ht with ⟨-, hx⟩ | ⟨-, hx⟩
    · obtain ⟨id, hhead, hid⟩ := Option.bind_eq_some_iff.1 hx
      obtain ⟨r, hr, hrt⟩ := Option.map_eq_some_iff.1 hid
      cases he : truthy r.egressId with
      | some e =>
        simp only [he] at hrt
        cases hrt
        exact .ask ⟨r, hr, (truthy_eq_some.1 he).1⟩
      | none =>
        simp only [he] at hrt
        cases hrt
        exact .skip hhead hr he
    · cases hx
  | stopEgress next id e =>
    rcases call_ok ht with ⟨hok, -, hx⟩ | ⟨-, hx⟩
    · cases hx
      exact .stopped hok
    · exact .follow (goOn_follows hx)
  | stopWrite next id =>
    rcases call_ok ht with ⟨-, -, hx⟩ | ⟨-, hx⟩ <;> exact .follow (goOn_follows hx)
  | applyFind next result =>
    rcases reads_ok ht with ⟨-, hx⟩ | ⟨-, hx⟩
    · split at hx
      · rename_i hfind
        exact afterFind_successor hfind hx
      · exact .follow (goOn_follows hx)
    · exact .follow (goOn_follows hx)
  | applySize next id key result =>
    rcases reads_ok ht with ⟨-, hx⟩ | ⟨-, hx⟩
    · split at hx
      · rename_i hwrite
        cases hx
        exact .sized (applied_writes hwrite)
      · exact .follow (goOn_follows hx)
    · exact .follow (goOn_follows hx)
  | applyWrite next id status write =>
    rcases call_ok ht with ⟨-, -, hx⟩ | ⟨-, hx⟩ <;> exact .follow (goOn_follows hx)
  | endedFind =>
    rcases reads_ok ht with ⟨-, hx⟩ | ⟨-, hx⟩
    · cases hx
      exact .ended (endedFrom_follows _)
    · cases hx
  | overFind =>
    rcases reads_ok ht with ⟨-, hx⟩ | ⟨-, hx⟩
    · cases hx
      exact .overrun (overFrom_follows _ _)
    · cases hx
  | stuckFind =>
    rcases reads_ok ht with ⟨-, hx⟩ | ⟨-, hx⟩
    · exact .stuck (stuckFrom_follows hx)
    · cases hx
  | describe rest r e => exact describe_successor ht
  | failWrite rest id error =>
    rcases call_ok ht with ⟨-, -, hx⟩ | ⟨-, hx⟩ <;> exact .follow (stuckFrom_follows hx)

/-- The effect of a call that succeeds. -/
theorem call_effect {a : Answer} (h : a.ok = true) (eff : Effect) (x y : Option Task) :
    (call a eff x y).1 = eff := by
  simp only [Answer.ok, beq_iff_eq] at h
  exact if_pos (by simp [Answer.commits, h])

/-- A row that was just made, an egress that was just launched. -/
theorem get_create {s : State} {id : RecordingId} (h : s.recordings.get id = none) (row : Recording) :
    ((Effect.create id row).run s).recordings.get id = some row := by
  show Table.get (Table.insert s.recordings id row) id = some row
  rw [Table.get_insert h, if_pos rfl]

theorem get_launch {s : State} {e : EgressId} (h : s.egresses.get e = none) (sessionId : SessionId) :
    ((Effect.launch e sessionId).run s).egresses.get e = some ⟨sessionId, .running⟩ := by
  show Table.get (Table.insert s.egresses e _) e = _
  rw [Table.get_insert h, if_pos rfl]

theorem snaps_of_rows {w : World} {s : State} {ids : List RecordingId} (r : Snap) (e : EgressId)
    (hr : r ∈ snaps w s ids) (he : truthy r.egressId = some e) : Has s r.id e := by
  obtain ⟨row, -, hget, hrow, -⟩ := snaps_has hr
  exact ⟨row, hget, hrow.trans (truthy_eq_some.1 he).1⟩

/-- A start that has just made its row holds it. -/
theorem TaskOk.holding {s : State} {t : Task} {id : RecordingId} {row : Recording}
    (hrow : s.recordings.get id = some row) (hnone : row.egressId = none) (hnext : t.next = .done)
    (hasks : t.asks = none) (hholds : t.holds = some id)
    (hlaunched : ∀ e, t.launched = some e → (s.egresses.get e).isSome = true) (hreports : t.Reports s) :
    TaskOk s t where
  snaps := by
    intro r e hr
    rw [hnext] at hr
    cases hr
  asks := by
    intro id e ha
    rw [hasks] at ha
    cases ha
  holds := by
    intro id' hid
    rw [hholds] at hid
    cases hid
    exact ⟨row, hrow, hnone⟩
  launched := hlaunched
  reports := hreports

/-- What a task goes on as has its facts, after its step. -/
theorem TaskOk.next {w : World} {s : State} {a : Answer} {t t' : Task} (h : TaskOk s t)
    (ha : answers w s a t = true) (ht : (move w s a t).2 = some t') :
    TaskOk ((move w s a t).1.run s) t' := by
  have hgrows := Effect.grows (move_enabled h ha)
  have hsnaps : ∀ r e, r ∈ t.next.snaps → truthy r.egressId = some e →
      Has ((move w s a t).1.run s) r.id e := fun r e hr he => hgrows.has (h.snaps r e hr he)
  cases move_successor ht with
  | follow hf => exact .follow hf hsnaps
  | @createdPage sessionId organizationId page hok =>
    have hnew : s.recordings.get a.id = none := Option.isNone_iff_eq_none.1 ha
    rw [show (move w s a (.startStage .create sessionId organizationId page)).1
      = .create a.id (newRow sessionId organizationId a.now) from call_effect hok _ _ _]
    exact .holding (get_create hnew _) rfl rfl rfl rfl (fun _ he => (by cases he)) trivial
  | @created sessionId organizationId page hok =>
    have hnew : s.recordings.get a.id = none := Option.isNone_iff_eq_none.1 ha
    rw [show (move w s a (.startStage .create sessionId organizationId page)).1
      = .create a.id (newRow sessionId organizationId a.now) from call_effect hok _ _ _]
    exact .holding (get_create hnew _) rfl rfl rfl rfl (fun _ he => (by cases he)) trivial
  | @minted sessionId organizationId id =>
    obtain ⟨row, hrow, hnone⟩ := h.holds id rfl
    exact .holding hrow hnone rfl rfl rfl (fun _ he => (by cases he)) trivial
  | @launched sessionId organizationId id hok =>
    obtain ⟨row, hrow, hnone⟩ := h.holds id rfl
    rw [show (move w s a (.startEgress sessionId organizationId id)).1 = .launch a.egressId sessionId
      from call_effect hok _ _ _]
    simp only [answers, Bool.and_eq_true, Option.isNone_iff_eq_none] at ha
    refine .holding (s := (Effect.launch a.egressId sessionId).run s) hrow hnone rfl rfl rfl ?_ trivial
    rintro _ ⟨⟩
    rw [get_launch ha.1]
    rfl
  | ask hrow =>
    refine ⟨fun _ _ hr => (by cases hr), ?_, fun _ hr => (by cases hr), fun _ hr => (by cases hr), trivial⟩
    rintro _ _ ⟨⟩
    exact hrow
  | stopped hok =>
    exact ⟨hsnaps, fun _ _ hr => (by cases hr), fun _ hr => (by cases hr), fun _ hr => (by cases hr), trivial⟩
  | needsSize hrow =>
    exact ⟨h.snaps, fun _ _ hr => (by cases hr), fun _ hr => (by cases hr), fun _ hr => (by cases hr), hrow,
      h.reports⟩
  | found hrow hwrites =>
    obtain ⟨info, hinfo, hst⟩ := h.reports
    exact ⟨h.snaps, fun _ _ hr => (by cases hr), fun _ hr => (by cases hr), fun _ hr => (by cases hr), hwrites,
      _, info, hrow, hinfo, hst⟩
  | sized hwrites =>
    obtain ⟨hrow, info, hinfo, hst⟩ := h.reports
    exact ⟨h.snaps, fun _ _ hr => (by cases hr), fun _ hr => (by cases hr), fun _ hr => (by cases hr), hwrites,
      _, info, hrow, hinfo, hst⟩
  | ended hf => exact .follow hf snaps_of_rows
  | overrun hf => exact .follow hf snaps_of_rows
  | stuck hf => exact .follow hf snaps_of_rows
  | @report rest r e info hphase =>
    refine ⟨h.snaps, fun _ _ hr => (by cases hr), fun _ hr => (by cases hr), fun _ hr => (by cases hr), info, ?_,
      pulledResult_status e info⟩
    show reportOf s e = some info
    unfold reportOf
    rw [hphase]
    rfl
  | unknown hphase hok habandon =>
    exact ⟨h.snaps, fun _ _ hr => (by cases hr), fun _ hr => (by cases hr), fun _ hr => (by cases hr), trivial⟩
  | _ => exact .plain rfl rfl rfl rfl trivial

theorem bare_givesUp {t : Task} {id : RecordingId} (h : id ∈ t.next.bare) : id ∈ t.givesUp := by
  cases t with
  | startCatch sessionId id' error => cases h
  | failWrite rest id' error => exact List.mem_cons_of_mem _ h
  | _ => exact h

theorem takes_row {s : State} {p : Recording → Bool} {n : Nat} {rows : List RecordingId}
    (h : takes s p n rows = true) {id : RecordingId} (hid : id ∈ rows) :
    ∃ r, s.recordings.get id = some r ∧ p r = true := by
  unfold takes at h
  simp only [Bool.and_eq_true, List.all_eq_true] at h
  exact (Option.any_eq_true _ _).1 (h.1.2 id hid)

/-! ## Steps -/

theorem Effect.named {s : State} {e : Effect} (h : e.Enabled s) (hn : s.egresses.get "" = none) :
    (e.run s).egresses.get "" = none := by
  cases e with
  | launch e sessionId =>
    show Table.get (Table.insert s.egresses e _) "" = none
    rw [Table.get_insert h.1, if_neg h.2.symm]
    exact hn
  | halt e =>
    show Table.get (Table.modify s.egresses e _) "" = none
    rw [Table.get_modify]
    split
    · rename_i heq
      rw [hn]
      rfl
    · exact hn
  | _ => exact hn

theorem Effect.run_tasks (s : State) (e : Effect) : (e.run s).tasks = s.tasks := by
  cases e <;> rfl

/-- A task holds what it held before, or a row it has just made. -/
theorem Successor.holds {w : World} {s : State} {a : Answer} {t t' : Task} {id : RecordingId}
    (h : Successor w s a t t') (ha : answers w s a t = true) (hid : t'.holds = some id) :
    t.holds = some id ∨ s.recordings.get id = none := by
  cases h with
  | createdPage hok => cases hid; exact .inr (Option.isNone_iff_eq_none.1 ha)
  | created hok => cases hid; exact .inr (Option.isNone_iff_eq_none.1 ha)
  | minted => exact .inl hid
  | launched hok => exact .inl hid
  | follow hf => rw [hf.holds] at hid; cases hid
  | ended hf => rw [hf.holds] at hid; cases hid
  | overrun hf => rw [hf.holds] at hid; cases hid
  | stuck hf => rw [hf.holds] at hid; cases hid
  | _ => cases hid

/-- What follows from a step of one task for the facts of all. -/
theorem Wf.resume {w : World} {s : State} {i : Nat} {a : Answer} {t : Task} (h : Wf s)
    (hi : s.tasks.get i = some t) (ha : answers w s a t = true) :
    Wf (((move w s a t).1.run s).goto i (move w s a t).2) := by
  have hok := h.tasks i t hi
  have henabled := move_enabled hok ha
  have hgrows := Effect.grows henabled
  have htasks : ∀ j u, j ≠ i → s.tasks.get j = some u → TaskOk ((move w s a t).1.run s) u := by
    intro j u hj hu
    refine (h.tasks j u hu).mono hgrows fun id r hid hr hnone => Effect.held henabled ?_ hr hnone
    intro e' key heq
    exact h.once j u id hu hid i t hj.symm hi (move_recording heq)
  constructor
  · intro j u hj
    have hj' : (((move w s a t).1.run s).tasks.put i (move w s a t).2).get j = some u := hj
    rw [Effect.run_tasks] at hj'
    rcases Pool.get_put_cases hj' with ⟨-, hu⟩ | ⟨hji, hu⟩
    · have hnext := hok.next ha hu
      exact ⟨hnext.snaps, hnext.asks, hnext.holds, hnext.launched, hnext.reports⟩
    · have hother := htasks j u hji hu
      exact ⟨hother.snaps, hother.asks, hother.holds, hother.launched, hother.reports⟩
  · show (((move w s a t).1.run s).tasks.put i (move w s a t).2).Exclusive Task.holds
    rw [Effect.run_tasks]
    refine h.once.put i fun id hid => ?_
    obtain ⟨t', ht', hid⟩ := Option.bind_eq_some_iff.1 hid
    rcases (move_successor ht').holds ha hid with hheld | hnew
    · exact h.once i t id hi hheld
    · intro j u hj hu hheld
      obtain ⟨r, hr, -⟩ := (h.tasks j u hu).holds id hheld
      rw [hnew] at hr
      cases hr
  · exact Effect.named henabled h.named
  · intro id e hhas
    exact Effect.known henabled h.known hhas
  · intro e info hinfo
    exact h.keyed e info (Effect.reports henabled hinfo)

/-- A request or a tick begins: it carries nothing yet. -/
theorem Wf.spawn {s s' : State} {i : Nat} {t : Task} (h : Wf s) (hs : spawn s i t = some s')
    (hok : TaskOk s t) (hholds : t.holds = none) : Wf s' := by
  unfold Recordings.spawn at hs
  split at hs
  · cases hs
    refine ⟨?_, ?_, h.named, h.known, h.keyed⟩
    · intro j u hj
      have hj' : (s.tasks.put i (some t)).get j = some u := hj
      rcases Pool.get_put_cases hj' with ⟨-, hu⟩ | ⟨-, hu⟩
      · cases hu
        exact ⟨hok.snaps, hok.asks, hok.holds, hok.launched, hok.reports⟩
      · have hother := h.tasks j u hu
        exact ⟨hother.snaps, hother.asks, hother.holds, hother.launched, hother.reports⟩
    · refine h.once.put i fun id hid => ?_
      rw [Option.bind_some, hholds] at hid
      cases hid
  · cases hs

/-- LiveKit moves an egress on, keeping its report if it has one. -/
theorem Wf.phase {s : State} {e : EgressId} {p : Phase} (h : Wf s)
    (hp : ∀ info, reportOf s e = some info → p.report = some info)
    (hkey : ∀ info, p.report = some info → info.egressId = e) :
    Wf { s with egresses := s.egresses.modify e fun g => { g with phase := p } } where
  tasks := fun i t hi => (h.tasks i t hi).mono (grows_phase hp) fun _ r _ hr hnone => ⟨r, hr, hnone⟩
  once := h.once
  named := by
    show Table.get (Table.modify s.egresses e _) "" = none
    rw [Table.get_modify]
    split
    · rw [h.named]
      rfl
    · exact h.named
  known := fun id e' hhas => (grows_phase hp).egresses e' (h.known id e' hhas)
  keyed := by
    intro e' info hinfo
    unfold reportOf at hinfo
    rw [phaseOf_modify] at hinfo
    split at hinfo
    · rename_i heq
      subst heq
      cases hq : phaseOf s e' with
      | none => rw [hq] at hinfo; cases hinfo
      | some q => rw [hq] at hinfo; exact hkey info hinfo
    · exact h.keyed e' info hinfo

/-- What an egress that ends, or is forgotten, goes on to. -/
theorem finished_cases {s s' : State} {e : EgressId} {info : EgressInfo} (h : finished s e info = some s') :
    s' = { s with egresses := s.egresses.modify e fun g => { g with phase := .closed info } } ∧
      reportOf s e = none ∧ info.egressId = e ∧ info.status.finished = true := by
  unfold finished at h
  split at h
  · rename_i hcond
    cases h
    simp only [Bool.and_eq_true, beq_iff_eq, Option.any_eq_true] at hcond
    obtain ⟨⟨⟨p, hp, hreport⟩, hid⟩, hfin⟩ := hcond
    refine ⟨rfl, ?_, hid, hfin⟩
    unfold reportOf
    rw [hp]
    simpa using hreport
  · cases h

theorem forgotten_cases {s s' : State} {e : EgressId} (h : forgotten s e = some s') :
    ∃ info, s' = { s with egresses := s.egresses.modify e fun g => { g with phase := .forgotten info } } ∧
      phaseOf s e = some (.closed info) := by
  unfold forgotten at h
  split at h
  · rename_i info hphase
    cases h
    exact ⟨info, rfl, hphase⟩
  · cases h

theorem Wf.step {w : World} {s s' : State} {e : Event} (h : Wf s) (hs : step w s e = some s') : Wf s' := by
  cases e with
  | session e =>
    obtain ⟨sessions, -, rfl⟩ := Option.map_eq_some_iff.1 hs
    exact ⟨fun i t hi => ⟨(h.tasks i t hi).snaps, (h.tasks i t hi).asks, (h.tasks i t hi).holds,
      (h.tasks i t hi).launched, (h.tasks i t hi).reports⟩, h.once, h.named, h.known, h.keyed⟩
  | start i sessionId organizationId => exact h.spawn hs (.plain rfl rfl rfl rfl trivial) rfl
  | stop i sessionId organizationId => exact h.spawn hs (.plain rfl rfl rfl rfl trivial) rfl
  | webhook i e =>
    obtain ⟨info, hinfo, hs⟩ := Option.bind_eq_some_iff.1 hs
    refine h.spawn hs (.plain rfl rfl rfl rfl ⟨info, ?_, webhookResult_status info⟩) rfl
    show reportOf s info.egressId = some info
    rw [h.keyed e info hinfo]
    exact hinfo
  | tick i => exact h.spawn hs (.plain rfl rfl rfl rfl trivial) rfl
  | resume i a =>
    obtain ⟨t, hi, hs⟩ := Option.bind_eq_some_iff.1 hs
    split at hs
    · rename_i ha
      cases hs
      exact h.resume hi ha
    · cases hs
  | finish e info =>
    obtain ⟨rfl, hnone, hid, -⟩ := finished_cases hs
    refine h.phase (fun info' hinfo => ?_) fun info' hinfo => ?_
    · rw [hnone] at hinfo
      cases hinfo
    · cases hinfo
      exact hid
  | forget e =>
    obtain ⟨info, rfl, hphase⟩ := forgotten_cases hs
    have hreport : reportOf s e = some info := by
      unfold reportOf
      rw [hphase]
      rfl
    refine h.phase (fun info' hinfo => ?_) fun info' hinfo => ?_
    · rw [hreport] at hinfo
      exact hinfo
    · cases hinfo
      exact h.keyed e info hreport

/-- Nothing recorded yet, and no task in flight. -/
def init (sessions : Sessions.State) : State := ⟨sessions, Table.empty, Table.empty, Pool.empty, []⟩

theorem wf_init (sessions : Sessions.State) : Wf (init sessions) where
  tasks := by
    intro i t hi
    cases hi
  once := Pool.exclusive_empty
  named := rfl
  known := by
    rintro id e ⟨r, hr, -⟩
    cases hr
  keyed := by
    intro e info hinfo
    cases hinfo

end Livetich.Recordings
