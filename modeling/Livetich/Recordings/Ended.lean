/-
A class that has ended stops being filmed: the next tick of the reconciler stops its recording, as long
as no join sets the session back from ENDED before the tick has asked for such rows, and the row is
among those the tick takes.
-/
import Livetich.Recordings.Invariants

namespace Livetich.Recordings

open Livetich.Js Livetich.Lib TransSys

/-! ## A session that stays over -/

def IsEnded (s : State) (sessionId : SessionId) : Prop :=
  ∃ row, s.sessions.db.sessions.get sessionId = some row ∧ row.status = .ended

/-- A call is about to write over the status of a session: one of a host, or a student's join. -/
def opened (byHost : Bool) (sessionId : SessionId) (s : State) : Event → Bool
  | .session (.resume j _) => match s.sessions.tasks.get j with
    | some (.startWrite id _) | some (.resolveGoLive _ id) => byHost && id == sessionId
    | some (.resolveReopen _ host id) => host == byHost && id == sessionId
    | _ => false
  | _ => false

/-- No host re-opens the class, and no student's join does. -/
def undisturbed (sessionId : SessionId) (s : State) (e : Event) : Bool :=
  !opened true sessionId s e && !opened false sessionId s e

theorem ended_modify {sessions : Table SessionId Sessions.LiveSession} {id sessionId : SessionId}
    {f : Sessions.LiveSession → Sessions.LiveSession} {row : Sessions.LiveSession}
    (hf : id = sessionId → (f row).status = .ended) (hrow : sessions.get sessionId = some row)
    (hs : row.status = .ended) :
    ∃ row', (sessions.modify id f).get sessionId = some row' ∧ row'.status = .ended := by
  rw [Table.get_modify, hrow]
  split
  · rename_i heq
    exact ⟨f row, rfl, hf heq.symm⟩
  · exact ⟨row, rfl, hs⟩

theorem ended_insert {sessions : Table SessionId Sessions.LiveSession} {id sessionId : SessionId}
    {row new : Sessions.LiveSession} (hfresh : sessions.get id = none) (hrow : sessions.get sessionId = some row) :
    (sessions.insert id new).get sessionId = some row := by
  rw [Table.get_insert hfresh, if_neg, hrow]
  rintro rfl
  rw [hfresh] at hrow
  cases hrow

/-- A session stays ENDED through every call that does not write over its status. -/
theorem IsEnded.session {w : World} {s : State} {e : Sessions.Event} {sessions : Sessions.State}
    {sessionId : SessionId} (h : IsEnded s sessionId) (hok : undisturbed sessionId s (.session e) = true)
    (hs : Sessions.step w.tzdb s.sessions e = some sessions) :
    IsEnded { s with sessions } sessionId := by
  obtain ⟨row, hrow, hended⟩ := h
  have hspawn : ∀ {j t}, Sessions.spawn s.sessions j t = some sessions →
      IsEnded { s with sessions } sessionId := by
    intro j t hs
    unfold Sessions.spawn at hs
    split at hs
    · cases hs
      exact ⟨row, hrow, hended⟩
    · cases hs
  cases e with
  | schedule j _ _ => exact hspawn hs
  | start j _ _ => exact hspawn hs
  | finish j _ _ => exact hspawn hs
  | resolve j _ _ _ => exact hspawn hs
  | fail j =>
    obtain ⟨t, -, rfl⟩ := Option.map_eq_some_iff.1 hs
    exact ⟨row, hrow, hended⟩
  | resume j env =>
    have hs : (if env.fresh s.sessions then
      (s.sessions.tasks.get j).map (Sessions.resume w.tzdb s.sessions j env) else none) = some sessions := hs
    split at hs
    · rename_i hfresh
      simp only [Sessions.Env.fresh, Bool.and_eq_true, Option.isNone_iff_eq_none] at hfresh
      obtain ⟨t, hj, rfl⟩ := Option.map_eq_some_iff.1 hs
      simp only [undisturbed, opened, hj] at hok
      cases t with
      | scheduleCreate dto => exact ⟨row, ended_insert hfresh.1 hrow, hended⟩
      | startWrite id _ =>
        refine ended_modify (fun heq => ?_) hrow hended
        simp [heq] at hok
      | endWrite id => exact ended_modify (fun _ => rfl) hrow hended
      | resolveUpsert target host window dateKey scheduledAt =>
        refine ⟨row, ?_, hended⟩
        show (Sessions.upsert s.sessions.db.sessions env.freshId target.id dateKey scheduledAt).1.get _ = _
        unfold Sessions.upsert
        split
        · exact hrow
        · exact ended_insert hfresh.1 hrow
      | resolveReopen target host id =>
        refine ended_modify (fun heq => ?_) hrow hended
        cases host <;> simp [heq] at hok
      | resolveGoLive target id =>
        refine ended_modify (fun heq => ?_) hrow hended
        simp [heq] at hok
      | _ => exact ⟨row, hrow, hended⟩
    · cases hs

/-! ## The tick -/

/-- The tick's query for rows of ended classes is still to be answered. -/
def isAsking (s : State) (i : Nat) : Bool := match s.tasks.get i with
  | some .endedFind => true
  | _ => false

/-- The tick is complete: its query succeeds, and so do LiveKit's stop of the row and the write after it. -/
def completes (i : Nat) (id : RecordingId) (s : State) : Event → Bool
  | .resume j a => j != i || match s.tasks.get i with
    | some .endedFind => a.ok
    | some (.stopEgress (.ended _) id' _) | some (.stopWrite (.ended _) id') => id' != id || a.ok
    | _ => true
  | _ => true

/-- The row is among those the tick takes, if it is still active then. -/
def reaches (i : Nat) (id : RecordingId) (s : State) : Event → Bool
  | .resume j a => j != i || !isAsking s i || a.rows.contains id ||
      (s.recordings.get id).all fun r => !r.status.isActive
  | _ => true

/-- The steps of a tick that stops the row: until its query is answered the class is left as it is. -/
def sweeps (i : Nat) (id : RecordingId) (sessionId : SessionId) (s : State) (e : Event) : Bool :=
  (!isAsking s i || undisturbed sessionId s e) && completes i id s e && reaches i id s e

/-- A pass over ended classes that still comes to the row. -/
inductive Ahead (id : RecordingId) : Task → Prop
  | stopping {rest e} : Ahead id (.stopEgress (.ended rest) id e)
  | writing {rest} : Ahead id (.stopWrite (.ended rest) id)
  | later {rest id' e} (q : Snap) (mem : q ∈ rest) (row : q.id = id)
      (egress : (truthy q.egressId).isSome = true) : Ahead id (.stopEgress (.ended rest) id' e)
  | laterWriting {rest id'} (q : Snap) (mem : q ∈ rest) (row : q.id = id)
      (egress : (truthy q.egressId).isSome = true) : Ahead id (.stopWrite (.ended rest) id')

/-- The pass comes to every row with an egress id. -/
theorem ahead_endedFrom {id : RecordingId} {q : Snap} (hrow : q.id = id)
    (hegress : (truthy q.egressId).isSome = true) : ∀ {l : List Snap}, q ∈ l → Ahead id (endedFrom l)
  | [], h => by cases h
  | r :: rest, h => by
    unfold endedFrom
    rcases List.mem_cons.1 h with heq | hrest
    · obtain ⟨e, he⟩ := Option.isSome_iff_exists.1 hegress
      rw [heq] at he hrow
      rw [he, hrow]
      exact .stopping
    · split
      · exact .later q hrest hrow hegress
      · exact ahead_endedFrom hrow hegress hrest

def IsClosed (s : State) (id : RecordingId) : Prop :=
  ∃ r, s.recordings.get id = some r ∧ r.status.isActive = false

/-- A tick in its pass over ended classes either still comes to the row after a step, or has closed it. -/
theorem Ahead.move {w : World} {s : State} {i : Nat} {a : Answer} {t : Task} {id : RecordingId} {r : Recording}
    (h : Ahead id t) (hi : s.tasks.get i = some t) (hrow : s.recordings.get id = some r)
    (hok : completes i id s (.resume i a) = true) :
    (∃ t', (move w s a t).2 = some t' ∧ Ahead id t') ∨ IsClosed ((move w s a t).1.run s) id := by
  have hgo : ∀ {rest : List Snap} {q : Snap}, q ∈ rest → q.id = id → (truthy q.egressId).isSome = true →
      ∃ t', goOn a.now (.ended rest) = some t' ∧ Ahead id t' :=
    fun hq hid he => ⟨_, rfl, ahead_endedFrom hid he hq⟩
  unfold completes at hok
  rw [hi] at hok
  cases h with
  | @stopping rest e =>
    simp only [bne_self_eq_false, Bool.false_or] at hok
    exact .inl ⟨.stopWrite (.ended rest) id, if_pos hok, .writing⟩
  | @writing rest =>
    simp only [bne_self_eq_false, Bool.false_or] at hok
    refine .inr ⟨processingRow r, ?_, rfl⟩
    rw [show (Recordings.move w s a (.stopWrite (.ended rest) id)).1 = .processing id from call_effect hok _ _ _]
    show Table.get (Table.modify s.recordings id processingRow) id = _
    rw [Table.get_modify_self, hrow]
    rfl
  | @later rest id' e q hq hid he =>
    left
    by_cases hans : a.ok = true
    · exact ⟨.stopWrite (.ended rest) id', if_pos hans, .laterWriting q hq hid he⟩
    · obtain ⟨t', ht', hahead⟩ := hgo hq hid he
      exact ⟨t', (if_neg hans).trans ht', hahead⟩
  | @laterWriting rest id' q hq hid he =>
    left
    obtain ⟨t', ht', hahead⟩ := hgo hq hid he
    refine ⟨t', ?_, hahead⟩
    by_cases hans : a.ok = true
    · exact (if_pos hans).trans ht'
    · exact (if_neg hans).trans ht'

/-! ## Rows -/

/-- A row with an egress id that is closed stays closed. -/
theorem Effect.closed {s : State} {e : Effect} (henabled : e.Enabled s) {id : RecordingId} {e' : EgressId}
    (hhas : Has s id e') (h : IsClosed s id) : IsClosed (e.run s) id := by
  obtain ⟨r, hr, hclosed⟩ := h
  have hmodify : ∀ (j : RecordingId) (f : Recording → Recording),
      (j = id → (f r).status.isActive = false) →
      ∃ r', (s.recordings.modify j f).get id = some r' ∧ r'.status.isActive = false := by
    intro j f hf
    by_cases hj : id = j
    · subst hj
      exact ⟨f r, by rw [Table.get_modify_self, hr]; rfl, hf rfl⟩
    · exact ⟨r, (Table.get_modify_of_ne _ _ hj).trans hr, hclosed⟩
  cases e with
  | create j row =>
    refine ⟨r, ?_, hclosed⟩
    show Table.get (Table.insert s.recordings j row) id = some r
    rw [Table.get_insert henabled.1, if_neg, hr]
    rintro rfl
    rw [henabled.1] at hr
    cases hr
  | recording j e key =>
    refine hmodify j _ ?_
    rintro rfl
    obtain ⟨⟨q, hq, hnone⟩, -⟩ := henabled
    obtain ⟨q', hq', he'⟩ := hhas
    rw [hq] at hq'
    cases hq'
    rw [hnone] at he'
    cases he'
  | processing j => exact hmodify j processingRow fun _ => rfl
  | fail j error => exact hmodify j (erroredRow error) fun _ => rfl
  | result j status write =>
    refine hmodify j write fun _ => ?_
    rw [(henabled r).1]
    cases status <;> rfl
  | _ => exact ⟨r, hr, hclosed⟩

theorem Effect.run_sessions (s : State) (e : Effect) : (e.run s).sessions = s.sessions := by
  cases e <;> rfl

/-! ## Steps -/

/-- Before the tick: the row of an ended class. -/
structure Over (s : State) (id : RecordingId) (sessionId : SessionId) (e : EgressId) : Prop where
  wf : Wf s
  row : ∃ r, s.recordings.get id = some r ∧ r.sessionId = sessionId ∧ r.egressId = some e
  ended : IsEnded s sessionId

/-- During the tick: it is about to ask for such rows, or still comes to this one, or the row is closed. -/
structure Swept (s : State) (i : Nat) (id : RecordingId) (sessionId : SessionId) (e : EgressId) : Prop where
  wf : Wf s
  row : ∃ r, s.recordings.get id = some r ∧ r.sessionId = sessionId ∧ r.egressId = some e
  due : IsClosed s id ∨ (s.tasks.get i = some .endedFind ∧ IsEnded s sessionId) ∨
    ∃ t, s.tasks.get i = some t ∧ Ahead id t

theorem row_grows {s s' : State} {id : RecordingId} {sessionId : SessionId} {e : EgressId} (hg : Grows s s')
    (h : ∃ r, s.recordings.get id = some r ∧ r.sessionId = sessionId ∧ r.egressId = some e) :
    ∃ r, s'.recordings.get id = some r ∧ r.sessionId = sessionId ∧ r.egressId = some e := by
  obtain ⟨r, hr, hsession, he⟩ := h
  obtain ⟨r', hr', hsession', hkeep⟩ := hg.rows id r hr
  exact ⟨r', hr', hsession'.trans hsession, hkeep e he⟩

/-- The rows, their egress ids and the closed ones stay through every step. -/
theorem step_rows {w : World} {s s' : State} {ev : Event} (hwf : Wf s) (hs : step w s ev = some s')
    {id : RecordingId} {sessionId : SessionId} {e : EgressId}
    (h : ∃ r, s.recordings.get id = some r ∧ r.sessionId = sessionId ∧ r.egressId = some e) :
    (∃ r, s'.recordings.get id = some r ∧ r.sessionId = sessionId ∧ r.egressId = some e) ∧
      (IsClosed s id → IsClosed s' id) := by
  have hspawn : ∀ {j t}, spawn s j t = some s' → s'.recordings = s.recordings := by
    intro j t hs
    unfold spawn at hs
    split at hs
    · cases hs
      rfl
    · cases hs
  have hsame : s'.recordings = s.recordings →
      (∃ r, s'.recordings.get id = some r ∧ r.sessionId = sessionId ∧ r.egressId = some e) ∧
        (IsClosed s id → IsClosed s' id) := by
    intro heq
    unfold IsClosed
    rw [heq]
    exact ⟨h, fun hc => hc⟩
  cases ev with
  | session ev =>
    obtain ⟨sessions, -, rfl⟩ := Option.map_eq_some_iff.1 hs
    exact hsame rfl
  | start j _ _ => exact hsame (hspawn hs)
  | stop j _ _ => exact hsame (hspawn hs)
  | webhook j _ =>
    obtain ⟨info, -, hs⟩ := Option.bind_eq_some_iff.1 hs
    exact hsame (hspawn hs)
  | tick j => exact hsame (hspawn hs)
  | resume j a =>
    obtain ⟨t, hj, hs⟩ := Option.bind_eq_some_iff.1 hs
    split at hs
    · rename_i ha
      cases hs
      have henabled := move_enabled (hwf.tasks j t hj) ha
      have hrow := row_grows (Effect.grows henabled) h
      obtain ⟨r, hr, hsession, he⟩ := h
      exact ⟨hrow, fun hc => Effect.closed henabled ⟨r, hr, he⟩ hc⟩
    · cases hs
  | finish e info =>
    obtain ⟨rfl, -⟩ := finished_cases hs
    exact hsame rfl
  | forget e =>
    obtain ⟨info, rfl, -⟩ := forgotten_cases hs
    exact hsame rfl

/-- The sessions change only through their own calls. -/
theorem step_ended {w : World} {s s' : State} {ev : Event} (hs : step w s ev = some s') {sessionId : SessionId}
    (hok : undisturbed sessionId s ev = true) (h : IsEnded s sessionId) : IsEnded s' sessionId := by
  have hspawn : ∀ {j t}, spawn s j t = some s' → IsEnded s' sessionId := by
    intro j t hs
    unfold spawn at hs
    split at hs
    · cases hs
      exact h
    · cases hs
  cases ev with
  | session ev =>
    obtain ⟨sessions, hstep, rfl⟩ := Option.map_eq_some_iff.1 hs
    exact h.session hok hstep
  | start j _ _ => exact hspawn hs
  | stop j _ _ => exact hspawn hs
  | webhook j _ =>
    obtain ⟨info, -, hs⟩ := Option.bind_eq_some_iff.1 hs
    exact hspawn hs
  | tick j => exact hspawn hs
  | resume j a =>
    obtain ⟨t, -, hs⟩ := Option.bind_eq_some_iff.1 hs
    split at hs
    · cases hs
      show ∃ row, ((move w s a t).1.run s).sessions.db.sessions.get sessionId = some row ∧ row.status = .ended
      rw [Effect.run_sessions]
      exact h
    · cases hs
  | finish e info =>
    obtain ⟨rfl, -⟩ := finished_cases hs
    exact h
  | forget e =>
    obtain ⟨info, rfl, -⟩ := forgotten_cases hs
    exact h

theorem Over.step {w : World} {s s' : State} {ev : Event} {id : RecordingId} {sessionId : SessionId}
    {e : EgressId} (h : Over s id sessionId e) (hok : undisturbed sessionId s ev = true)
    (hs : step w s ev = some s') : Over s' id sessionId e where
  wf := h.wf.step hs
  row := (step_rows h.wf hs h.row).1
  ended := step_ended hs hok h.ended

/-- A step that is not one of the tick leaves it where it is. -/
theorem task_stays {w : World} {s s' : State} {ev : Event} {i : Nat} {t : Task} (hs : step w s ev = some s')
    (hi : s.tasks.get i = some t) (hother : ∀ a, ev ≠ .resume i a) : s'.tasks.get i = some t := by
  have hspawn : ∀ {j u}, spawn s j u = some s' → s'.tasks.get i = some t := by
    intro j u hs
    unfold spawn at hs
    split at hs
    · rename_i hfree
      cases hs
      show (s.tasks.put j (some u)).get i = some t
      rw [Pool.get_put_of_ne, hi]
      rintro rfl
      rw [hi] at hfree
      cases hfree
    · cases hs
  cases ev with
  | session ev =>
    obtain ⟨sessions, -, rfl⟩ := Option.map_eq_some_iff.1 hs
    exact hi
  | start j _ _ => exact hspawn hs
  | stop j _ _ => exact hspawn hs
  | webhook j _ =>
    obtain ⟨info, -, hs⟩ := Option.bind_eq_some_iff.1 hs
    exact hspawn hs
  | tick j => exact hspawn hs
  | resume j a =>
    obtain ⟨u, -, hs⟩ := Option.bind_eq_some_iff.1 hs
    split at hs
    · cases hs
      show (((move w s a u).1.run s).tasks.put j _).get i = some t
      rw [Effect.run_tasks, Pool.get_put_of_ne, hi]
      rintro rfl
      exact hother a rfl
    · cases hs
  | finish e info =>
    obtain ⟨rfl, -⟩ := finished_cases hs
    exact hi
  | forget e =>
    obtain ⟨info, rfl, -⟩ := forgotten_cases hs
    exact hi

/-- The tick's own step: what it goes on as. -/
theorem Swept.resume {w : World} {s s' : State} {i : Nat} {a : Answer} {id : RecordingId}
    {sessionId : SessionId} {e : EgressId} (h : Swept s i id sessionId e)
    (hok : sweeps i id sessionId s (.resume i a) = true) (hs : step w s (.resume i a) = some s') :
    Swept s' i id sessionId e := by
  have hrows := step_rows h.wf hs h.row
  refine ⟨h.wf.step hs, hrows.1, ?_⟩
  by_cases hclosed : IsClosed s id
  · exact .inl (hrows.2 hclosed)
  · simp only [sweeps, Bool.and_eq_true] at hok
    obtain ⟨r, hr, hsession, he⟩ := h.row
    obtain ⟨t, hi, hs⟩ := Option.bind_eq_some_iff.1 hs
    split at hs
    · cases hs
      have htask : (((move w s a t).1.run s).goto i (move w s a t).2).tasks.get i = (move w s a t).2 := by
        show (((move w s a t).1.run s).tasks.put i _).get i = _
        rw [Effect.run_tasks, Pool.get_put_self]
      rcases h.due with hc | ⟨hask, -⟩ | ⟨u, hu, hahead⟩
      · exact absurd hc hclosed
      · -- the query returns the row, with its egress id
        rw [hi] at hask
        cases hask
        have hans : a.ok = true := by
          have := hok.1.2
          unfold completes at this
          simpa [hi] using this
        have hmem : id ∈ a.rows := by
          have := hok.2
          unfold reaches isAsking at this
          simp only [bne_self_eq_false, hi, Bool.not_true, Bool.or_self, Bool.false_or, hr, Option.all_some,
            Bool.or_eq_true, List.contains_eq_mem, decide_eq_true_eq, Bool.not_eq_true'] at this
          exact this.resolve_right fun hidle => hclosed ⟨r, hr, hidle⟩
        have hnamed : e ≠ "" := by
          rintro rfl
          have := h.wf.known id "" ⟨r, hr, he⟩
          rw [h.wf.named] at this
          cases this
        refine .inr (.inr ⟨endedFrom (snaps w s a.rows), htask.trans (if_pos hans), ?_⟩)
        refine ahead_endedFrom (q := ⟨id, r.egressId, r.createdAt, w.maxRecordingMinutes r.organizationId⟩) rfl ?_ ?_
        · show (truthy r.egressId).isSome = true
          rw [truthy_eq_some.2 ⟨he, hnamed⟩]
          rfl
        · exact List.mem_filterMap.2 ⟨id, hmem, by rw [hr]; rfl⟩
      · rw [hi] at hu
        cases hu
        rcases hahead.move (w := w) hi hr hok.1.2 with ⟨t', ht', hnext⟩ | hc
        · exact .inr (.inr ⟨t', htask.trans ht', hnext⟩)
        · exact .inl hc
    · cases hs

theorem Swept.step {w : World} {s s' : State} {ev : Event} {i : Nat} {id : RecordingId}
    {sessionId : SessionId} {e : EgressId} (h : Swept s i id sessionId e)
    (hok : sweeps i id sessionId s ev = true) (hs : step w s ev = some s') : Swept s' i id sessionId e := by
  by_cases hown : ∃ a, ev = .resume i a
  · obtain ⟨a, rfl⟩ := hown
    exact h.resume hok hs
  · have hother : ∀ a, ev ≠ .resume i a := fun a heq => hown ⟨a, heq⟩
    have hrows := step_rows h.wf hs h.row
    refine ⟨h.wf.step hs, hrows.1, ?_⟩
    rcases h.due with hc | ⟨hask, hended⟩ | ⟨t, ht, hahead⟩
    · exact .inl (hrows.2 hc)
    · refine .inr (.inl ⟨task_stays hs hask hother, step_ended hs ?_ hended⟩)
      simp only [sweeps, isAsking, hask, Bool.not_true, Bool.false_or, Bool.and_eq_true] at hok
      exact hok.1.1
    · exact .inr (.inr ⟨t, task_stays hs ht hother, hahead⟩)

/-! ## Runs -/

/-- Once a class has ended, a complete tick of the reconciler closes its recording: no call writes over
the session's status before the tick's query is answered, and the query returns the row if it is still
active. -/
theorem ended_class_stopped {w : World} {sessions : Sessions.State} {es₁ es₂ es₃ : List Event}
    {s₁ s₂ s₃ : State} {i : Nat} {id : RecordingId} {r : Recording} {e : EgressId}
    (h₁ : run (step w) (init sessions) es₁ = some s₁) (hr : s₁.recordings.get id = some r)
    (he : r.egressId = some e) (hended : IsEnded s₁ r.sessionId)
    (h₂ : run (step w) s₁ es₂ = some s₂)
    (hclass : Meets (step w) (fun s ev => undisturbed r.sessionId s ev = true) s₁ es₂)
    (h₃ : run (step w) s₂ (.tick i :: es₃) = some s₃)
    (htick : Meets (step w) (fun s ev => sweeps i id r.sessionId s ev = true) s₂ (.tick i :: es₃))
    (hdone : s₃.tasks.get i = none) :
    ∃ r', s₃.recordings.get id = some r' ∧ r'.status.isActive = false := by
  have hover : Over s₁ id r.sessionId e :=
    ⟨run_keeps (fun _ _ _ h hs => Wf.step h hs) (wf_init sessions) h₁, ⟨r, hr, rfl, he⟩, hended⟩
  have hover₂ := run_inv (fun _ _ _ h hok hs => Over.step h hok hs) hover hclass h₂
  obtain ⟨s, hs, h₃⟩ := run_cons.1 h₃
  have hstart : Swept s i id r.sessionId e := by
    refine ⟨hover₂.wf.step hs, (step_rows hover₂.wf hs hover₂.row).1, .inr (.inl ⟨?_, ?_⟩)⟩
    · have hs : spawn s₂ i .endedFind = some s := hs
      unfold spawn at hs
      split at hs
      · cases hs
        show (s₂.tasks.put i _).get i = _
        rw [Pool.get_put_self]
      · cases hs
    · exact step_ended hs rfl hover₂.ended
  rcases (run_inv (fun _ _ _ h hok hs => Swept.step h hok hs) hstart (htick.2 s hs) h₃).due with hc | hask | hahead
  · exact hc
  · rw [hdone] at hask
    cases hask.1
  · obtain ⟨t, ht, -⟩ := hahead
    rw [hdone] at ht
    cases ht

namespace Example

/-- A class that meets on Thursdays, and is LIVE on the first one. -/
def thursdays : Sessions.State where
  db :=
    { courses := [{ Sessions.Example.unscheduled "c" none with
        startDate := some 0, durationWeeks := some 1, meetingDays := .arr [.num (.ofInt 4)]
        meetingTime := some "00:00", timezone := some "Africa/Lagos" }]
      enrollments := [⟨"c", "z", "Zara", "zara@example.com", none⟩]
      sessions := ⟨[("class", { Sessions.LiveSession.create "c" none 0 (.course "c" "1970-01-01") with
        status := .live })], by decide⟩ }
  tasks := Pool.empty

def lagosWorld : World := ⟨fun _ => none, Schedule.Example.lagosZones⟩

def session (j n : Nat) : List Event := List.replicate n (.session (.resume j ⟨0, "spare", "u", true⟩))

/-- The instructor ends the class while its recording runs. -/
def filmedOn : List Event :=
  recorded ++ .session (.finish 0 ⟨"t", .instructor, "Tolu", some "org", none, none⟩ "class") :: session 0 2

/-- A student joins again within the day's window. -/
def rejoined : List Event :=
  .session (.resolve 1 ⟨"z", .student, "Zara", some "org", none, none⟩ "c" false) :: session 1 5

/-- A tick whose first query returns some rows. -/
def tickWith (rows : List RecordingId) (n : Nat) : List Event :=
  .tick 2 :: .resume 2 { answer with rows } :: resumes 2 n

end Example

open Example in
theorem left_class_stopped : ∃ s₁ s₃, run (step lagosWorld) (init thursdays) filmedOn = some s₁ ∧
    run (step lagosWorld) s₁ (tickWith ["lesson"] 4) = some s₃ ∧
    ∃ r', s₃.recordings.get "lesson" = some r' ∧ r'.status.isActive = false := by
  have hrun : ((run (step lagosWorld) (init thursdays) filmedOn).bind fun s₁ =>
      (run (step lagosWorld) s₁ (tickWith ["lesson"] 4)).map fun s₃ =>
        ((s₁.recordings.get "lesson").map fun r => (r.sessionId, r.egressId),
          (s₁.sessions.db.sessions.get "class").map (·.status), (s₃.tasks.get 2).isNone))
      = some (some ("class", some "EG_1"), some .ended, true) := by decide
  obtain ⟨s₁, s₃, h₁, h₃, hseen⟩ := observed hrun
  simp only [Prod.mk.injEq, Option.isNone_iff_eq_none] at hseen
  obtain ⟨r, hr, hfields⟩ := Option.map_eq_some_iff.1 hseen.1
  simp only [Prod.mk.injEq] at hfields
  obtain ⟨row, hrow, hended⟩ := Option.map_eq_some_iff.1 hseen.2.1
  refine ⟨s₁, s₃, h₁, h₃, ended_class_stopped h₁ hr hfields.2 ?_ (run_nil _ s₁) trivial h₃ ?_ hseen.2.2⟩
  · rw [hfields.1]
    exact ⟨row, hrow, hended⟩
  · rw [hfields.1]
    have hall : Meets (step lagosWorld) (fun s ev => sweeps 2 "lesson" "class" s ev = true) (init thursdays)
        (filmedOn ++ tickWith ["lesson"] 4) := by decide
    exact (meets_append hall h₁).2

open Example in
/-- A student's join sets the session back to SCHEDULED, and the tick finds nothing to stop: the class goes
on being filmed. -/
theorem rejoin_keeps_filming :
    ∃ s₁ s₃, run (step lagosWorld) (init thursdays) filmedOn = some s₁ ∧
      run (step lagosWorld) s₁ (rejoined ++ tickWith [] 2) = some s₃ ∧
      (statusOfRow "lesson" s₁, statusOfRow "lesson" s₃, (s₁.sessions.db.sessions.get "class").map (·.status),
        (s₃.sessions.db.sessions.get "class").map (·.status), (s₃.tasks.get 2).isNone)
        = (some .recording, some .recording, some .ended, some .scheduled, true) :=
  observed (by decide)

end Livetich.Recordings
