/-
A finished recording stays finished: once LiveKit's report has been written to a row, no writer that
looked at the row before sets it back, as long as no such write is still under way when the report is
written down.
-/
import Livetich.Recordings.Invariants

namespace Livetich.Recordings

open Livetich.Js Livetich.Lib TransSys

/-! ## When a result may be written -/

/-- LiveKit has no record of an egress, or no longer has one. -/
def isUnknown (s : State) (e : EgressId) : Bool :=
  match phaseOf s e with
  | none | some (.forgotten _) => true
  | _ => false

/-- A result is written to a row only while no stop still has its PROCESSING write to the row ahead, and
a complete one only while no FAILED write to it is ahead; and LiveKit denies knowing the egress of a
row, once it is old enough to be given up, only when the row is not READY. -/
def calm (s : State) : Event → Bool
  | .resume i a => match s.tasks.get i with
    | some (.applyWrite _ id status _) => !a.commits || s.tasks.entries.all fun e =>
        e.2.turnsBack != some id && (status == .failed || !e.2.givesUp.contains id)
    | some (.describe _ r e) => !isUnknown s e || !a.ok || decide (a.now - r.createdAt ≤ ABANDON_MS) ||
        (s.recordings.get r.id).all fun row => row.status != .ready
    | _ => true
  | _ => true

/-! ## The invariant -/

structure Settled (s : State) : Prop where
  wf : Wf s
  /-- A reported row has the status of LiveKit's report. -/
  reported : ∀ id st, (id, st) ∈ s.reported → ∃ r e info, s.recordings.get id = some r ∧
    r.status = st.row ∧ r.egressId = some e ∧ reportOf s e = some info ∧ st = statusOf info
  ready : ∀ id r, s.recordings.get id = some r → r.status = .ready → (id, .complete) ∈ s.reported
  back : ∀ i t id st, s.tasks.get i = some t → t.turnsBack = some id → (id, st) ∉ s.reported
  fails : ∀ i t id, s.tasks.get i = some t → id ∈ t.givesUp → (id, .complete) ∉ s.reported

/-- What an effect needs so that reported rows stay as they are. -/
def Effect.Safe (s : State) : Effect → Prop
  | .processing id => ∀ st, (id, st) ∉ s.reported
  | .fail id _ => (id, .complete) ∉ s.reported
  | .result id status _ => ∃ e info, Has s id e ∧ reportOf s e = some info ∧ status = statusOf info
  | _ => True

theorem Settled.run_reported {s : State} {e : Effect} (h : Settled s) (henabled : e.Enabled s)
    (hsafe : e.Safe s) (id : RecordingId) (st : ResultStatus) (hmem : (id, st) ∈ (e.run s).reported) :
    ∃ r e' info, (e.run s).recordings.get id = some r ∧ r.status = st.row ∧ r.egressId = some e' ∧
      reportOf (e.run s) e' = some info ∧ st = statusOf info := by
  have hgrows := Effect.grows henabled
  -- a row that is changed keeps its egress id, and with it the report
  have hkeep : ∀ (j : RecordingId) (f : Recording → Recording), (id, st) ∈ s.reported →
      (∀ r, s.recordings.get j = some r → j = id → r.status = st.row →
        (f r).status = st.row ∧ (f r).egressId = r.egressId) →
      ∃ r e' info, (s.recordings.modify j f).get id = some r ∧ r.status = st.row ∧ r.egressId = some e' ∧
        reportOf s e' = some info ∧ st = statusOf info := by
    intro j f hold hf
    obtain ⟨r, e', info, hr, hs, he, hinfo, hst⟩ := h.reported id st hold
    by_cases hj : id = j
    · subst hj
      obtain ⟨hs', he'⟩ := hf r hr rfl hs
      exact ⟨f r, e', info, by rw [Table.get_modify_self, hr]; rfl, hs', he'.trans he, hinfo, hst⟩
    · exact ⟨r, e', info, (Table.get_modify_of_ne _ _ hj).trans hr, hs, he, hinfo, hst⟩
  cases e with
  | silent => exact h.reported id st hmem
  | create j row =>
    obtain ⟨r, e', info, hr, hs, he, hinfo, hst⟩ := h.reported id st hmem
    refine ⟨r, e', info, ?_, hs, he, hinfo, hst⟩
    show Table.get (Table.insert s.recordings j row) id = some r
    rw [Table.get_insert henabled.1, if_neg, hr]
    rintro rfl
    rw [henabled.1] at hr
    cases hr
  | recording j e key =>
    obtain ⟨r, hr, hnone⟩ := henabled.1
    refine hkeep j _ hmem fun r' hr' hj _ => ?_
    subst hj
    obtain ⟨q, e', -, hq, -, he', -⟩ := h.reported j st hmem
    rw [hr] at hq
    cases hq
    rw [hnone] at he'
    cases he'
  | processing j =>
    refine hkeep j _ hmem fun r hr hj _ => ?_
    subst hj
    exact absurd hmem (hsafe st)
  | fail j error =>
    refine hkeep j (erroredRow error) hmem fun r hr hj _ => ?_
    subst hj
    cases st with
    | complete => exact absurd hmem hsafe
    | failed => exact ⟨rfl, rfl⟩
  | result j status write =>
    obtain ⟨e', info, ⟨r, hr, he⟩, hinfo, hst⟩ := hsafe
    have hnow : id = j → st = status → ∃ r e' info, (s.recordings.modify j write).get id = some r ∧
        r.status = st.row ∧ r.egressId = some e' ∧ reportOf s e' = some info ∧ st = statusOf info := by
      rintro rfl rfl
      exact ⟨write r, e', info, by rw [Table.get_modify_self, hr]; rfl, (henabled r).1,
        (henabled r).2.1.trans he, hinfo, hst⟩
    rcases List.mem_cons.1 hmem with heq | hold
    · exact hnow (congrArg Prod.fst heq) (congrArg Prod.snd heq)
    · by_cases hj : id = j
      · -- both reports are of the same egress
        subst hj
        obtain ⟨q, e'', info', hq, -, he'', hinfo', hst'⟩ := h.reported id st hold
        rw [hr] at hq
        cases hq
        rw [he] at he''
        cases he''
        rw [hinfo] at hinfo'
        cases hinfo'
        exact hnow rfl (hst'.trans hst.symm)
      · exact hkeep j write hold fun _ _ hji => absurd hji.symm hj
  | launch e sessionId =>
    obtain ⟨r, e', info, hr, hs, he, hinfo, hst⟩ := h.reported id st hmem
    exact ⟨r, e', info, hr, hs, he, hgrows.reports _ _ hinfo, hst⟩
  | halt e =>
    obtain ⟨r, e', info, hr, hs, he, hinfo, hst⟩ := h.reported id st hmem
    exact ⟨r, e', info, hr, hs, he, hgrows.reports _ _ hinfo, hst⟩

/-- Only a complete report makes a row READY. -/
theorem Settled.run_ready {s : State} {e : Effect} (h : Settled s) (henabled : e.Enabled s)
    (hnew : ∀ id row, e = .create id row → row.status ≠ .ready) (id : RecordingId) (r : Recording)
    (hr : (e.run s).recordings.get id = some r) (hs : r.status = .ready) :
    (id, .complete) ∈ (e.run s).reported := by
  have hmodify : ∀ (j : RecordingId) (f : Recording → Recording), (∀ q, (f q).status ≠ .ready) →
      (s.recordings.modify j f).get id = some r → (id, ResultStatus.complete) ∈ s.reported := by
    intro j f hf hr
    by_cases hj : id = j
    · subst hj
      rw [Table.get_modify_self] at hr
      obtain ⟨q, -, rfl⟩ := Option.map_eq_some_iff.1 hr
      exact absurd hs (hf q)
    · rw [Table.get_modify_of_ne _ _ hj] at hr
      exact h.ready id r hr hs
  cases e with
  | create j row =>
    have hr : Table.get (Table.insert s.recordings j row) id = some r := hr
    rw [Table.get_insert henabled.1] at hr
    split at hr
    · cases hr
      exact absurd hs (hnew j r rfl)
    · exact h.ready id r hr hs
  | recording j e key => exact hmodify j (recordingRow e key) (fun q => by simp [recordingRow]) hr
  | processing j => exact hmodify j processingRow (fun q => by simp [processingRow]) hr
  | fail j error => exact hmodify j (erroredRow error) (fun q => by simp [erroredRow]) hr
  | result j status write =>
    have hr : Table.get (Table.modify s.recordings j write) id = some r := hr
    by_cases hj : id = j
    · subst hj
      rw [Table.get_modify_self] at hr
      obtain ⟨q, -, rfl⟩ := Option.map_eq_some_iff.1 hr
      cases status with
      | complete => exact List.mem_cons_self
      | failed =>
        rw [(henabled q).1] at hs
        cases hs
    · rw [Table.get_modify_of_ne _ _ hj] at hr
      exact List.mem_cons_of_mem _ (h.ready id r hr hs)
  | _ => exact h.ready id r hr hs

/-! ## Steps -/

/-- A row that is still open has no report written to it. -/
theorem Settled.not_reported {s : State} (h : Settled s) {id : RecordingId} {r : Recording}
    (hr : s.recordings.get id = some r) {st : ResultStatus} (hst : r.status ≠ st.row) :
    (id, st) ∉ s.reported := by
  intro hmem
  obtain ⟨q, -, -, hq, hs, -⟩ := h.reported id st hmem
  rw [hr] at hq
  cases hq
  exact hst hs

theorem Settled.not_reported_held {s : State} (h : Settled s) {id : RecordingId} {r : Recording}
    (hr : s.recordings.get id = some r) (hnone : r.egressId = none) (st : ResultStatus) :
    (id, st) ∉ s.reported := by
  intro hmem
  obtain ⟨q, e, -, hq, -, he, -⟩ := h.reported id st hmem
  rw [hr] at hq
  cases hq
  rw [hnone] at he
  cases he

/-- An egress that still runs has been reported for no row. -/
theorem Settled.not_reported_running {s : State} (h : Settled s) {id : RecordingId} {e : EgressId}
    (hhas : Has s id e) (hrun : phaseOf s e = some .running) (st : ResultStatus) : (id, st) ∉ s.reported := by
  intro hmem
  obtain ⟨q, e', info, hq, -, he', hinfo, -⟩ := h.reported id st hmem
  have heq : e = e' := hhas.unique ⟨q, hq, he'⟩
  subst heq
  unfold reportOf at hinfo
  rw [hrun] at hinfo
  cases hinfo

theorem isActive_ne {st : RecordingStatus} (h : st.isActive = true) (rs : ResultStatus) : st ≠ rs.row := by
  rintro rfl
  cases rs <;> cases h

/-- The effect of a task's step leaves reported rows as they are. -/
theorem Settled.safe {s : State} {i : Nat} {a : Answer} {t : Task} {e : Effect} (h : Settled s)
    (hi : s.tasks.get i = some t) (hd : Does a t e) : e.Safe s := by
  cases hd with
  | caught => exact h.fails i _ _ hi (by simp [Task.givesUp])
  | processing => exact fun st => h.back i _ _ st hi rfl
  | result _ => exact (h.wf.tasks i _ hi).reports.2
  | failed => exact h.fails i _ _ hi (by simp [Task.givesUp])
  | _ => trivial

/-- Only the write of a result adds a report. -/
theorem Does.reported {s : State} {a : Answer} {t : Task} {e : Effect} (hd : Does a t e) {id : RecordingId}
    {st : ResultStatus} (h : (id, st) ∈ (e.run s).reported) :
    (id, st) ∈ s.reported ∨ ∃ next write, t = .applyWrite next id st write ∧ a.commits = true := by
  cases hd with
  | @result next id' st' write hcommits =>
    rcases List.mem_cons.1 h with heq | hold
    · cases heq
      exact .inr ⟨next, write, rfl, hcommits⟩
    · exact .inl hold
  | _ => exact .inl h

/-- A task about to set a row to PROCESSING: LiveKit has just accepted the stop, or the row has no
egress id. -/
theorem Settled.successor_back {w : World} {s : State} {a : Answer} {t t' : Task} {id : RecordingId}
    (h : Settled s) (hok : TaskOk s t) (ha : answers w s a t = true) (hsucc : Successor w s a t t')
    (hback : t'.turnsBack = some id) (st : ResultStatus) : (id, st) ∉ s.reported := by
  cases hsucc with
  | @skip sessionId organizationId id' r hhead hr hegress =>
    cases hback
    obtain ⟨q, hq, hp⟩ := takes_row ha (List.mem_of_mem_head? hhead)
    simp only [Bool.and_eq_true] at hp
    exact h.not_reported hq (isActive_ne hp.2 st)
  | @stopped next id' e hstop =>
    cases hback
    have hrun : phaseOf s e = some .running := by
      have := move_enabled hok ha
      rw [show (move w s a (.stopEgress next id e)).1 = .halt e from call_effect hstop _ _ _] at this
      exact this
    exact h.not_reported_running (hok.asks _ _ rfl) hrun st
  | follow hf => rw [hf.turnsBack] at hback; cases hback
  | ended hf => rw [hf.turnsBack] at hback; cases hback
  | overrun hf => rw [hf.turnsBack] at hback; cases hback
  | stuck hf => rw [hf.turnsBack] at hback; cases hback
  | _ => cases hback

/-- A task about to set a row to FAILED by itself: the row has no complete report. -/
theorem Settled.successor_fails {w : World} {s : State} {i : Nat} {a : Answer} {t t' : Task}
    {id : RecordingId} (h : Settled s) (hi : s.tasks.get i = some t) (ha : answers w s a t = true)
    (hcalm : calm s (.resume i a) = true) (hsucc : Successor w s a t t') (hgive : id ∈ t'.givesUp) :
    (id, .complete) ∉ s.reported := by
  have hok := h.wf.tasks i t hi
  have hbare : id ∈ t.next.bare → (id, ResultStatus.complete) ∉ s.reported :=
    fun hb => h.fails i t id hi (bare_givesUp hb)
  cases hsucc with
  | follow hf => exact hbare (hf.givesUp id hgive)
  | ended hf => cases hf.givesUp id hgive
  | overrun hf => cases hf.givesUp id hgive
  | stuck hf =>
    obtain ⟨r, hr, -, rfl⟩ := mem_bare.1 (hf.givesUp id hgive)
    obtain ⟨row, hid, hrow, -, -⟩ := snaps_has hr
    obtain ⟨q, hq, hp⟩ := takes_row ha hid
    refine h.not_reported hq fun hs => ?_
    simp only [Bool.and_eq_true, hs] at hp
    cases hp.1
  | @mintCatch sessionId organizationId id' =>
    obtain ⟨r, hr, hnone⟩ := hok.holds _ rfl
    cases List.mem_singleton.1 hgive
    exact h.not_reported_held hr hnone _
  | @egressCatch sessionId organizationId id' _ =>
    obtain ⟨r, hr, hnone⟩ := hok.holds _ rfl
    cases List.mem_singleton.1 hgive
    exact h.not_reported_held hr hnone _
  | @writeCatch sessionId id' e key _ =>
    obtain ⟨r, hr, hnone⟩ := hok.holds _ rfl
    cases List.mem_singleton.1 hgive
    exact h.not_reported_held hr hnone _
  | @unknown rest r e error hphase hanswer habandon =>
    rcases List.mem_cons.1 hgive with rfl | hrest
    · obtain ⟨row, hrow, -⟩ := hok.asks _ _ rfl
      have hunknown : isUnknown s e = true := by
        unfold isUnknown
        rcases hphase with hp | ⟨info, hp⟩ <;> rw [hp]
      unfold calm at hcalm
      simp only [hi, hunknown, hanswer, hrow, Bool.not_true, Bool.false_or, Option.all_some,
        Bool.or_eq_true, decide_eq_true_eq, bne_iff_ne] at hcalm
      rcases hcalm with hold | hready
      · omega
      · exact h.not_reported hrow hready
    · exact hbare hrest
  | stopped _ => exact hbare hgive
  | needsSize _ => exact hbare hgive
  | found _ _ => exact hbare hgive
  | sized _ => exact hbare hgive
  | report _ => exact hbare hgive
  | _ => cases hgive

theorem calm_write {s : State} {i : Nat} {a : Answer} {next : Next} {id : RecordingId} {st : ResultStatus}
    {write : Recording → Recording} (hi : s.tasks.get i = some (.applyWrite next id st write))
    (hcommits : a.commits = true) (hcalm : calm s (.resume i a) = true) {j : Nat} {u : Task}
    (hj : s.tasks.get j = some u) :
    u.turnsBack ≠ some id ∧ (st = .complete → id ∉ u.givesUp) := by
  unfold calm at hcalm
  simp only [hi, hcommits, Bool.not_true, Bool.false_or, List.all_eq_true] at hcalm
  have := hcalm (j, u) (Pool.mem_of_get hj)
  simp only [Bool.and_eq_true, bne_iff_ne, Bool.or_eq_true, beq_iff_eq, Bool.not_eq_true',
    List.contains_eq_mem, decide_eq_false_iff_not] at this
  refine ⟨this.1, fun hst => this.2.resolve_left ?_⟩
  rw [hst]
  decide

theorem Settled.resume {w : World} {s : State} {i : Nat} {a : Answer} {t : Task} (h : Settled s)
    (hi : s.tasks.get i = some t) (ha : answers w s a t = true) (hcalm : calm s (.resume i a) = true) :
    Settled (((move w s a t).1.run s).goto i (move w s a t).2) := by
  have hok := h.wf.tasks i t hi
  have henabled := move_enabled hok ha
  have htasks : ∀ j u, (((move w s a t).1.run s).goto i (move w s a t).2).tasks.get j = some u →
      (j = i ∧ (move w s a t).2 = some u) ∨ s.tasks.get j = some u := by
    intro j u hj
    have hj' : (((move w s a t).1.run s).tasks.put i (move w s a t).2).get j = some u := hj
    rw [Effect.run_tasks] at hj'
    rcases Pool.get_put_cases hj' with hnew | ⟨-, hold⟩
    · exact .inl hnew
    · exact .inr hold
  constructor
  · exact h.wf.resume hi ha
  · exact h.run_reported henabled (h.safe hi (move_does w s a t))
  · refine h.run_ready henabled fun id row heq => ?_
    have hd := move_does w s a t
    rw [heq] at hd
    cases hd
    simp [newRow]
  · intro j u id st hj hback hmem
    rcases (move_does w s a t).reported hmem with hold | ⟨next, write, rfl, hcommits⟩
    · rcases htasks j u hj with ⟨-, hnew⟩ | hu
      · exact h.successor_back hok ha (move_successor hnew) hback st hold
      · exact h.back j u id st hu hback hold
    · rcases htasks j u hj with ⟨-, hnew⟩ | hu
      · cases move_successor hnew with
        | follow hf => rw [hf.turnsBack] at hback; cases hback
      · exact (calm_write hi hcommits hcalm hu).1 hback
  · intro j u id hj hgive hmem
    rcases (move_does w s a t).reported hmem with hold | ⟨next, write, rfl, hcommits⟩
    · rcases htasks j u hj with ⟨-, hnew⟩ | hu
      · exact h.successor_fails hi ha hcalm (move_successor hnew) hgive hold
      · exact h.fails j u id hu hgive hold
    · rcases htasks j u hj with ⟨-, hnew⟩ | hu
      · cases move_successor hnew with
        | follow hf =>
          exact (calm_write hi hcommits hcalm hi).2 rfl (bare_givesUp (hf.givesUp id hgive))
      · exact (calm_write hi hcommits hcalm hu).2 rfl hgive

theorem Settled.spawn {s s' : State} {i : Nat} {t : Task} (h : Settled s) (hs : spawn s i t = some s')
    (hwf : Wf s') (hback : t.turnsBack = none) (hgive : t.givesUp = []) : Settled s' := by
  unfold Recordings.spawn at hs
  split at hs
  · cases hs
    refine ⟨hwf, h.reported, h.ready, ?_, ?_⟩
    · intro j u id st hj hb
      have hj' : (s.tasks.put i (some t)).get j = some u := hj
      rcases Pool.get_put_cases hj' with ⟨-, hu⟩ | ⟨-, hu⟩
      · cases hu
        rw [hback] at hb
        cases hb
      · exact h.back j u id st hu hb
    · intro j u id hj hg
      have hj' : (s.tasks.put i (some t)).get j = some u := hj
      rcases Pool.get_put_cases hj' with ⟨-, hu⟩ | ⟨-, hu⟩
      · cases hu
        rw [hgive] at hg
        cases hg
      · exact h.fails j u id hu hg
  · cases hs

/-- LiveKit moves an egress on. -/
theorem Settled.phase {s : State} {e : EgressId} {p : Phase} (h : Settled s)
    (hp : ∀ info, reportOf s e = some info → p.report = some info)
    (hwf : Wf { s with egresses := s.egresses.modify e fun g => { g with phase := p } }) :
    Settled { s with egresses := s.egresses.modify e fun g => { g with phase := p } } where
  wf := hwf
  reported := by
    intro id st hmem
    obtain ⟨r, e', info, hr, hs, he, hinfo, hst⟩ := h.reported id st hmem
    exact ⟨r, e', info, hr, hs, he, (grows_phase hp).reports _ _ hinfo, hst⟩
  ready := h.ready
  back := h.back
  fails := h.fails

theorem Settled.step {w : World} {s s' : State} {e : Event} (h : Settled s) (hok : calm s e = true)
    (hs : step w s e = some s') : Settled s' := by
  have hwf := h.wf.step hs
  cases e with
  | session e =>
    obtain ⟨sessions, -, rfl⟩ := Option.map_eq_some_iff.1 hs
    exact ⟨hwf, h.reported, h.ready, h.back, h.fails⟩
  | start i sessionId organizationId => exact h.spawn hs hwf rfl rfl
  | stop i sessionId organizationId => exact h.spawn hs hwf rfl rfl
  | webhook i e =>
    obtain ⟨info, -, hs⟩ := Option.bind_eq_some_iff.1 hs
    exact h.spawn hs hwf rfl rfl
  | tick i => exact h.spawn hs hwf rfl rfl
  | resume i a =>
    obtain ⟨t, hi, hs⟩ := Option.bind_eq_some_iff.1 hs
    split at hs
    · rename_i ha
      cases hs
      exact h.resume hi ha hok
    · cases hs
  | finish e info =>
    obtain ⟨rfl, hnone, -⟩ := finished_cases hs
    exact h.phase (fun info' hinfo => by rw [hnone] at hinfo; cases hinfo) hwf
  | forget e =>
    obtain ⟨info, rfl, hphase⟩ := forgotten_cases hs
    refine h.phase (fun info' hinfo => ?_) hwf
    unfold reportOf at hinfo
    rw [hphase] at hinfo
    exact hinfo

/-- What has been reported stays reported. -/
theorem reported_step {w : World} {s s' : State} {e : Event} (hs : step w s e = some s')
    {x : RecordingId × ResultStatus} (hx : x ∈ s.reported) : x ∈ s'.reported := by
  have hspawn : ∀ {i t}, spawn s i t = some s' → x ∈ s'.reported := by
    intro i t hs
    unfold spawn at hs
    split at hs
    · cases hs
      exact hx
    · cases hs
  cases e with
  | session e =>
    obtain ⟨sessions, -, rfl⟩ := Option.map_eq_some_iff.1 hs
    exact hx
  | start i sessionId organizationId => exact hspawn hs
  | stop i sessionId organizationId => exact hspawn hs
  | webhook i e =>
    obtain ⟨info, -, hs⟩ := Option.bind_eq_some_iff.1 hs
    exact hspawn hs
  | tick i => exact hspawn hs
  | resume i a =>
    obtain ⟨t, -, hs⟩ := Option.bind_eq_some_iff.1 hs
    split at hs
    · cases hs
      show x ∈ ((move w s a t).1.run s).reported
      cases (move w s a t).1 with
      | result id status write => exact List.mem_cons_of_mem _ hx
      | _ => exact hx
    · cases hs
  | finish e info =>
    obtain ⟨rfl, -⟩ := finished_cases hs
    exact hx
  | forget e =>
    obtain ⟨info, rfl, -⟩ := forgotten_cases hs
    exact hx

/-! ## Runs -/

theorem settled_init (sessions : Sessions.State) : Settled (init sessions) where
  wf := wf_init sessions
  reported := by
    intro id st hmem
    cases hmem
  ready := by
    intro id r hr
    cases hr
  back := by
    intro i t id st hi
    cases hi
  fails := by
    intro i t id hi
    cases hi

theorem reported_run {w : World} {es : List Event} {s s' : State} {x : RecordingId × ResultStatus}
    (h : run (step w) s es = some s') (hx : x ∈ s.reported) : x ∈ s'.reported :=
  run_keeps (I := fun s => x ∈ s.reported) (fun _ _ _ hx hs => reported_step hs hx) hx h

/-- In a run whose results are written in calm, a row that is READY stays READY, and a row that LiveKit
reported as failed stays FAILED. -/
theorem finished_stays {w : World} {sessions : Sessions.State} {es₁ es₂ : List Event} {s₁ s₂ : State}
    (h₁ : run (step w) (init sessions) es₁ = some s₁) (h₂ : run (step w) s₁ es₂ = some s₂)
    (hok : Meets (step w) (fun s e => calm s e = true) (init sessions) (es₁ ++ es₂)) :
    (∀ id r, s₁.recordings.get id = some r → r.status = .ready →
      ∃ r', s₂.recordings.get id = some r' ∧ r'.status = .ready) ∧
    (∀ id, (id, .failed) ∈ s₁.reported → ∃ r', s₂.recordings.get id = some r' ∧ r'.status = .failed) := by
  obtain ⟨hok₁, hok₂⟩ := meets_append hok h₁
  have hinv₁ := run_inv (fun _ _ _ h hok hs => Settled.step h hok hs) (settled_init sessions) hok₁ h₁
  have hinv₂ := run_inv (fun _ _ _ h hok hs => Settled.step h hok hs) hinv₁ hok₂ h₂
  constructor
  · intro id r hr hs
    obtain ⟨r', -, -, hr', hs', -⟩ := hinv₂.reported id _ (reported_run h₂ (hinv₁.ready id r hr hs))
    exact ⟨r', hr', hs'⟩
  · intro id hmem
    obtain ⟨r', -, -, hr', hs', -⟩ := hinv₂.reported id _ (reported_run h₂ hmem)
    exact ⟨r', hr', hs'⟩

namespace Example

/-- Stop is pressed, and LiveKit accepts it. -/
def stopped : List Event :=
  [.stop 1 "class" "org", .resume 1 { answer with rows := ["lesson"] }, .resume 1 answer]

/-- The egress ends and the webhook writes its report down. -/
def reported : List Event := [.finish "EG_1" timed, .webhook 2 "EG_1"] ++ resumes 2 2

/-- A tick of the reconciler that finds nothing. -/
def tick : List Event := .tick 3 :: resumes 3 3

/-- The run up to the report. -/
def written : List Event := recorded ++ stopped ++ resumes 1 1 ++ reported

end Example

open Example in
theorem webhook_last_stays :
    ∃ s₁ s₂, run (step world) (init classroom) written = some s₁ ∧ run (step world) s₁ tick = some s₂ ∧
      ∃ r, s₂.recordings.get "lesson" = some r ∧ r.status = .ready := by
  have hrun : ((run (step world) (init classroom) written).bind fun s₁ => (run (step world) s₁ tick).map fun _ =>
      statusOfRow "lesson" s₁) = some (some .ready) := by decide +kernel
  obtain ⟨s₁, s₂, h₁, h₂, hready⟩ := observed hrun
  obtain ⟨r, hr, hs⟩ := Option.map_eq_some_iff.1 hready
  exact ⟨s₁, s₂, h₁, h₂, (finished_stays h₁ h₂ (by decide +kernel)).1 "lesson" r hr hs⟩

open Example in
/-- The webhook writes the report down before the stop's own write: the row goes from READY back to
PROCESSING. -/
theorem stop_hides_file :
    ∃ s₁ s₂, run (step world) (init classroom) (recorded ++ stopped ++ reported) = some s₁ ∧
      run (step world) s₁ (resumes 1 1) = some s₂ ∧
      (statusOfRow "lesson" s₁, statusOfRow "lesson" s₂) = (some .ready, some .processing) :=
  observed (by decide +kernel)

end Livetich.Recordings
