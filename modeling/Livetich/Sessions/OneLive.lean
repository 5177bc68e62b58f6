/-
At most one LIVE session a course, over every interleaving of `schedule`, `start`, `end` and
`resolveCourseSession`: a task that has passed its check and is about to set a session of a course
LIVE is in the region of that course.
-/
import Livetich.Sessions.Live

namespace Livetich.Sessions

open Livetich.Schedule Livetich.Lib TransSys
open Livetich.Courses (Course Enrollment)

/-! ## Going live -/

/-- The course a task is about to set a session of LIVE. -/
def Task.region : Task → Option CourseId
  | .startWrite _ courseId => some courseId
  | .resolveUpsert target host .. => if host then some target.id else none
  | .resolveReopen target host _ => if host then some target.id else none
  | .resolveGoLive target _ => some target.id
  | _ => none

/-- The session a task holds, under its course. -/
def Task.place : Task → Option (CourseId × SessionId)
  | .startWrite id courseId => some (courseId, id)
  | .resolveReopen target _ id => some (target.id, id)
  | .resolveGoLive target id => some (target.id, id)
  | _ => none

/-- No two sessions of one course are LIVE. -/
def OneLive (sessions : Table SessionId LiveSession) : Prop :=
  ∀ id id' r r', sessions.get id = some r → sessions.get id' = some r' → r.status = .live →
    r'.status = .live → r.courseId = r'.courseId → id = id'

/-- Today's room of a course belongs to a session of the course. -/
def RoomsOwn (sessions : Table SessionId LiveSession) : Prop :=
  ∀ id r c k, sessions.get id = some r → r.livekitRoom = .course c k → r.courseId = c

/-- The checks of one course do not overlap with what another call does after its own: `start` reads a
SCHEDULED session, and a host's join finds no LIVE one, only while no other call is about to set a
session of the course LIVE; and `start` is called only when no session of the course is LIVE. -/
def serial (s : State) : Event → Bool
  | .resume i _ => match s.tasks.get i with
    | some (.startRead _ id) => (s.db.sessions.get id).all fun r => r.status != .scheduled ||
        ((s.db.liveOf r.courseId).isNone && s.tasks.vacant Task.region i r.courseId)
    | some (.resolveLive user target teach) => !goingLiveAsHost user teach target ||
        (s.db.liveOf target.id).isSome || s.tasks.vacant Task.region i target.id
    | _ => true
  | _ => true

structure Inv (s : State) : Prop where
  rooms : RoomsOwn s.db.sessions
  oneLive : OneLive s.db.sessions
  places : ∀ i t c id, s.tasks.get i = some t → t.place = some (c, id) →
    ∃ r, s.db.sessions.get id = some r ∧ r.courseId = c
  alone : s.tasks.Exclusive Task.region
  /-- While a call is about to set a session of a course LIVE, none is. -/
  quiet : ∀ i t c, s.tasks.get i = some t → t.region = some c → ¬ Live s.db c

theorem Live.of_sessions {db : Db} {sessions : Table SessionId LiveSession} {c : CourseId}
    (hlive : ∀ id r, sessions.get id = some r → r.status = .live →
      ∃ r₀, db.sessions.get id = some r₀ ∧ r₀.status = .live ∧ r₀.courseId = r.courseId)
    (h : Live { db with sessions } c) : Live db c := by
  obtain ⟨id, r, hr, hc, hs⟩ := h
  obtain ⟨r₀, hr₀, hs₀, hc₀⟩ := hlive id r hr hs
  exact ⟨id, r₀, hr₀, hc₀.trans hc, hs₀⟩

/-- A step that sets no session LIVE. Its task may go on into a region that is vacant and quiet. -/
theorem Inv.next {s : State} (h : Inv s) (i : Nat) {sessions : Table SessionId LiveSession}
    {t : Option Task} (hrooms : RoomsOwn sessions)
    (hrows : ∀ id r, s.db.sessions.get id = some r → ∃ r', sessions.get id = some r' ∧ r'.courseId = r.courseId)
    (hlive : ∀ id r, sessions.get id = some r → r.status = .live →
      ∃ r₀, s.db.sessions.get id = some r₀ ∧ r₀.status = .live ∧ r₀.courseId = r.courseId)
    (hplace : ∀ c id, t.bind Task.place = some (c, id) → ∃ r, sessions.get id = some r ∧ r.courseId = c)
    (hregion : ∀ c, t.bind Task.region = some c → ¬ Live s.db c ∧ s.tasks.Vacant Task.region i c) :
    Inv ((s.setSessions sessions).goto i t) where
  rooms := hrooms
  oneLive := by
    intro id id' r r' hr hr' hs hs' hc
    obtain ⟨r₀, hr₀, hs₀, hc₀⟩ := hlive id r hr hs
    obtain ⟨r₁, hr₁, hs₁, hc₁⟩ := hlive id' r' hr' hs'
    exact h.oneLive id id' r₀ r₁ hr₀ hr₁ hs₀ hs₁ (hc₀.trans (hc.trans hc₁.symm))
  places := by
    intro j u c id hj hu
    have hj' : (s.tasks.put i t).get j = some u := hj
    rcases Pool.get_put_cases hj' with ⟨-, rfl⟩ | ⟨-, hj⟩
    · exact hplace c id hu
    · obtain ⟨r, hr, hc⟩ := h.places j u c id hj hu
      obtain ⟨r', hr', hc'⟩ := hrows id r hr
      exact ⟨r', hr', hc'.trans hc⟩
  alone := h.alone.put i fun c hc => (hregion c hc).2
  quiet := by
    intro j u c hj hu hl
    have hold : Live s.db c := Live.of_sessions hlive hl
    have hj' : (s.tasks.put i t).get j = some u := hj
    rcases Pool.get_put_cases hj' with ⟨-, rfl⟩ | ⟨-, hj⟩
    · exact (hregion c hu).1 hold
    · exact h.quiet j u c hj hu hold

theorem Inv.goto {s : State} (h : Inv s) (i : Nat) {t : Option Task}
    (hplace : ∀ c id, t.bind Task.place = some (c, id) → ∃ r, s.db.sessions.get id = some r ∧ r.courseId = c)
    (hregion : ∀ c, t.bind Task.region = some c → ¬ Live s.db c ∧ s.tasks.Vacant Task.region i c) :
    Inv (s.goto i t) :=
  h.next i h.rooms (fun _ r hr => ⟨r, hr, rfl⟩) (fun _ r hr hs => ⟨r, hr, hs, rfl⟩) hplace hregion

/-- A task that holds nothing and is about to set nothing LIVE. -/
theorem Inv.idle {s : State} (h : Inv s) (i : Nat) {t : Option Task} (hplace : t.bind Task.place = none)
    (hregion : t.bind Task.region = none) : Inv (s.goto i t) := by
  refine h.goto i (fun c id hc => ?_) (fun c hc => ?_)
  · rw [hplace] at hc
    cases hc
  · rw [hregion] at hc
    cases hc

/-- A row changed in place keeps its course and its room. -/
theorem Inv.modify {s : State} (h : Inv s) (i : Nat) {id : SessionId} {f : LiveSession → LiveSession}
    {t : Option Task} (hcourse : ∀ r, (f r).courseId = r.courseId)
    (hroom : ∀ r, (f r).livekitRoom = r.livekitRoom) (hstatus : ∀ r, (f r).status ≠ .live)
    (hplace : ∀ c id, t.bind Task.place = some (c, id) → ∃ r, s.db.sessions.get id = some r ∧ r.courseId = c)
    (hregion : ∀ c, t.bind Task.region = some c → ¬ Live s.db c ∧ s.tasks.Vacant Task.region i c) :
    Inv ((s.modify id f).goto i t) := by
  have hrows : ∀ j r, s.db.sessions.get j = some r →
      ∃ r', (s.db.sessions.modify id f).get j = some r' ∧ r'.courseId = r.courseId := by
    intro j r hr
    rw [Table.get_modify, hr]
    by_cases hj : j = id
    · exact ⟨f r, by rw [if_pos hj]; rfl, hcourse r⟩
    · exact ⟨r, by rw [if_neg hj], rfl⟩
  have hback : ∀ j r, (s.db.sessions.modify id f).get j = some r →
      s.db.sessions.get j = some r ∨ ∃ r₀, s.db.sessions.get j = some r₀ ∧ r = f r₀ := by
    intro j r hr
    rw [Table.get_modify] at hr
    by_cases hj : j = id
    · rw [if_pos hj] at hr
      obtain ⟨r₀, hr₀, rfl⟩ := Option.map_eq_some_iff.1 hr
      exact .inr ⟨r₀, hr₀, rfl⟩
    · rw [if_neg hj] at hr
      exact .inl hr
  refine h.next i ?_ hrows ?_ ?_ hregion
  · intro j r c k hr hk
    rcases hback j r hr with hr | ⟨r₀, hr₀, rfl⟩
    · exact h.rooms j r c k hr hk
    · rw [hroom] at hk
      rw [hcourse]
      exact h.rooms j r₀ c k hr₀ hk
  · intro j r hr hs
    rcases hback j r hr with hr | ⟨r₀, -, rfl⟩
    · exact ⟨r, hr, hs, rfl⟩
    · exact absurd hs (hstatus r₀)
  · intro c j hc
    obtain ⟨r, hr, hrc⟩ := hplace c j hc
    obtain ⟨r', hr', hc'⟩ := hrows j r hr
    exact ⟨r', hr', hc'.trans hrc⟩

/-- A new row, which is SCHEDULED. -/
theorem Inv.insert {s : State} (h : Inv s) (i : Nat) {id : SessionId} {row : LiveSession}
    {t : Option Task} (hfresh : s.db.sessions.get id = none) (hstatus : row.status ≠ .live)
    (hroom : ∀ c k, row.livekitRoom = .course c k → row.courseId = c)
    (hplace : ∀ c j, t.bind Task.place = some (c, j) → j = id ∧ row.courseId = c)
    (hregion : ∀ c, t.bind Task.region = some c → ¬ Live s.db c ∧ s.tasks.Vacant Task.region i c) :
    Inv ((s.setSessions (s.db.sessions.insert id row)).goto i t) := by
  have hback : ∀ j r, (s.db.sessions.insert id row).get j = some r →
      (j = id ∧ r = row) ∨ s.db.sessions.get j = some r := by
    intro j r hr
    rw [Table.get_insert hfresh] at hr
    by_cases hj : j = id
    · rw [if_pos hj] at hr
      exact .inl ⟨hj, (Option.some.inj hr).symm⟩
    · rw [if_neg hj] at hr
      exact .inr hr
  refine h.next i ?_ ?_ ?_ ?_ hregion
  · intro j r c k hr hk
    rcases hback j r hr with ⟨-, rfl⟩ | hr
    · exact hroom c k hk
    · exact h.rooms j r c k hr hk
  · intro j r hr
    refine ⟨r, ?_, rfl⟩
    rw [Table.get_insert hfresh, if_neg, hr]
    rintro rfl
    rw [hfresh] at hr
    cases hr
  · intro j r hr hs
    rcases hback j r hr with ⟨-, rfl⟩ | hr
    · exact absurd hs hstatus
    · exact ⟨r, hr, hs, rfl⟩
  · intro c j hc
    obtain ⟨rfl, hrow⟩ := hplace c j hc
    exact ⟨row, by rw [Table.get_insert hfresh, if_pos rfl], hrow⟩

/-- The last write of a call in the region of `c`: `id` is then the only LIVE session of `c`. -/
theorem Inv.goLive {s : State} (h : Inv s) {i : Nat} {t : Task} {c : CourseId} {id : SessionId}
    (hi : s.tasks.get i = some t) (hplace : t.place = some (c, id)) (hregion : t.region = some c)
    (now : Int) : Inv ((s.modify id (wentLive now)).goto i none) := by
  obtain ⟨row, hrow, hc⟩ := h.places i t c id hi hplace
  have hquiet := h.quiet i t c hi hregion
  have hget : ∀ j r, (s.db.sessions.modify id (wentLive now)).get j = some r →
      (j = id ∧ r = wentLive now row) ∨ (j ≠ id ∧ s.db.sessions.get j = some r) := by
    intro j r hr
    rw [Table.get_modify] at hr
    by_cases hj : j = id
    · subst hj
      rw [if_pos rfl, hrow] at hr
      exact .inl ⟨rfl, (Option.some.inj hr).symm⟩
    · rw [if_neg hj] at hr
      exact .inr ⟨hj, hr⟩
  have hnot : ∀ j r, s.db.sessions.get j = some r → r.status = .live → r.courseId ≠ c := by
    intro j r hr hs heq
    exact hquiet ⟨j, r, hr, heq, hs⟩
  constructor
  · intro j r c' k hr hk
    rcases hget j r hr with ⟨rfl, rfl⟩ | ⟨-, hr⟩
    · exact h.rooms j row c' k hrow hk
    · exact h.rooms j r c' k hr hk
  · intro j j' r r' hr hr' hs hs' hcc
    rcases hget j r hr with ⟨hj, hrow'⟩ | ⟨-, hold⟩
    · rcases hget j' r' hr' with ⟨hj', -⟩ | ⟨-, hold'⟩
      · rw [hj, hj']
      · rw [hrow'] at hcc
        exact absurd (hcc.symm.trans hc) (hnot j' r' hold' hs')
    · rcases hget j' r' hr' with ⟨-, hrow'⟩ | ⟨-, hold'⟩
      · rw [hrow'] at hcc
        exact absurd (hcc.trans hc) (hnot j r hold hs)
      · exact h.oneLive j j' r r' hold hold' hs hs' hcc
  · intro j u c' id' hj hu
    have hj' : (s.tasks.put i none).get j = some u := hj
    rcases Pool.get_put_cases hj' with ⟨-, hu'⟩ | ⟨-, hj⟩
    · cases hu'
    · obtain ⟨r, hr, hrc⟩ := h.places j u c' id' hj hu
      by_cases hid : id' = id
      · subst hid
        rw [hrow] at hr
        cases hr
        exact ⟨wentLive now row, by
          show (s.db.sessions.modify id' (wentLive now)).get id' = _
          rw [Table.get_modify_self, hrow]; rfl, hrc⟩
      · exact ⟨r, (Table.get_modify_of_ne _ _ hid).trans hr, hrc⟩
  · exact h.alone.put i fun c' hc' => by cases hc'
  · -- every other call is in the region of another course
    intro j u c' hj hu
    have hj' : (s.tasks.put i none).get j = some u := hj
    rcases Pool.get_put_cases hj' with ⟨-, hu'⟩ | ⟨hji, hj⟩
    · cases hu'
    · have hne : u.region ≠ some c := h.alone i t c hi hregion j u hji hj
      rintro ⟨k, r, hr, hrc, hs⟩
      rcases hget k r hr with ⟨-, rfl⟩ | ⟨-, hr⟩
      · refine hne (hu.trans (congrArg some ?_))
        exact hrc.symm.trans hc
      · exact h.quiet j u c' hj hu ⟨k, r, hr, hrc, hs⟩

/-! ## Every step -/

theorem liveOf_live {db : Db} {c : CourseId} {id : SessionId} {r : LiveSession}
    (h : db.liveOf c = some (id, r)) : r.status = .live := by
  have := List.find?_some h
  simp only [Bool.and_eq_true, beq_iff_eq] at this
  exact this.2

/-- A join that finds a LIVE session changes nothing. -/
theorem afterUpsert_live (target : Course) (host : Bool) (window : JoinWindow) (id : SessionId)
    {r : LiveSession} (h : r.status = .live) : afterUpsert target host window id r = none := by
  unfold afterUpsert reopens afterStatus
  rw [h]
  simp

theorem afterUpsert_place {target : Course} {host : Bool} {window : JoinWindow} {id : SessionId}
    {r : LiveSession} {c : CourseId} {j : SessionId}
    (h : (afterUpsert target host window id r).bind Task.place = some (c, j)) : c = target.id ∧ j = id := by
  unfold afterUpsert afterStatus at h
  split at h
  · cases h
    exact ⟨rfl, rfl⟩
  · split at h
    · cases h
      exact ⟨rfl, rfl⟩
    · cases h

theorem afterUpsert_region {target : Course} {host : Bool} {window : JoinWindow} {id : SessionId}
    {r : LiveSession} {c : CourseId}
    (h : (afterUpsert target host window id r).bind Task.region = some c) : host = true ∧ c = target.id := by
  unfold afterUpsert afterStatus at h
  split at h
  · simp only [Option.bind_some, Task.region] at h
    split at h
    · rename_i hhost
      exact ⟨hhost, (Option.some.inj h).symm⟩
    · cases h
  · split at h
    · rename_i hcond
      simp only [Bool.and_eq_true] at hcond
      exact ⟨hcond.1, (Option.some.inj h).symm⟩
    · cases h

/-- What a join waits for next when no session of its target is LIVE. -/
theorem afterLive_none (tzdb : String → Option Zone) (now : Int) (user : JwtPayload) (target : Course)
    (teach : Bool) : afterLive tzdb now user target teach none = none ∨
      ∃ window dateKey at_, afterLive tzdb now user target teach none
        = some (.resolveUpsert target (goingLiveAsHost user teach target) window dateKey at_) := by
  unfold afterLive
  simp only
  split
  · exact .inl rfl
  · split
    · exact .inl rfl
    · exact .inr ⟨_, _, _, rfl⟩

theorem not_live {db : Db} {c : CourseId} : (db.liveOf c).isNone = true ↔ ¬ Live db c := by
  rw [← liveOf_isSome]
  cases db.liveOf c with
  | none => simp
  | some e => simp

theorem Inv.startRead {s : State} (h : Inv s) {i : Nat} {env : Env} {instructorId : UserId}
    {id : SessionId} (hi : s.tasks.get i = some (.startRead instructorId id))
    (hok : serial s (.resume i env) = true) :
    Inv (s.goto i (((s.db.sessions.get id).filter fun r =>
      ownedBy s.db instructorId r && r.status == .scheduled).map fun r => .startWrite id r.courseId)) := by
  cases hrow : (s.db.sessions.get id).filter fun r => ownedBy s.db instructorId r && r.status == .scheduled with
  | none => exact h.idle i rfl rfl
  | some r =>
    obtain ⟨hget, hr⟩ := Option.filter_eq_some_iff.1 hrow
    simp only [Bool.and_eq_true, beq_iff_eq] at hr
    refine h.goto i (fun c j hc => ?_) (fun c hc => ?_)
    · cases hc
      exact ⟨r, hget, rfl⟩
    · cases hc
      unfold serial at hok
      simp only [hi, hget, Option.all_some, hr.2, bne_self_eq_false, Bool.false_or, Bool.and_eq_true] at hok
      exact ⟨not_live.1 hok.1, Pool.vacant_iff.1 hok.2⟩

theorem Inv.resolveLive {s : State} (h : Inv s) (tzdb : String → Option Zone) {i : Nat} {env : Env}
    {user : JwtPayload} {target : Course} {teach : Bool}
    (hi : s.tasks.get i = some (.resolveLive user target teach))
    (hok : serial s (.resume i env) = true) :
    Inv (s.goto i (afterLive tzdb env.now user target teach (s.db.liveOf target.id))) := by
  cases hlive : s.db.liveOf target.id with
  | some e =>
    obtain ⟨id, r⟩ := e
    have hnone : afterLive tzdb env.now user target teach (some (id, r)) = none := by
      unfold afterLive
      simp only [afterUpsert_live _ _ _ _ (liveOf_live hlive)]
      split <;> rfl
    rw [hnone]
    exact h.idle i rfl rfl
  | none =>
    have hquiet : ¬ Live s.db target.id := not_live.1 (by rw [hlive]; rfl)
    rcases afterLive_none tzdb env.now user target teach with hnone | ⟨window, dateKey, at_, hsome⟩
    · rw [hnone]
      exact h.idle i rfl rfl
    · rw [hsome]
      refine h.goto i (fun c j hc => by cases hc) (fun c hc => ?_)
      simp only [Option.bind_some, Task.region] at hc
      split at hc
      · rename_i hhost
        cases hc
        unfold serial at hok
        simp only [hi, hhost, hlive, Bool.not_true, Bool.false_or, Option.isSome_none] at hok
        exact ⟨hquiet, Pool.vacant_iff.1 hok⟩
      · cases hc

theorem Inv.resolveUpsert {s : State} (h : Inv s) {i : Nat} {target : Course} {host : Bool}
    {window : JoinWindow} {dateKey : String} {scheduledAt : Int} {freshId : SessionId}
    (hi : s.tasks.get i = some (.resolveUpsert target host window dateKey scheduledAt))
    (hfresh : s.db.sessions.get freshId = none) :
    Inv ((s.setSessions (upsert s.db.sessions freshId target.id dateKey scheduledAt).1).goto i
      (afterUpsert target host window (upsert s.db.sessions freshId target.id dateKey scheduledAt).2.1
        (upsert s.db.sessions freshId target.id dateKey scheduledAt).2.2)) := by
  have hregion : ∀ {id r} c, (afterUpsert target host window id r).bind Task.region = some c →
      ¬ Live s.db c ∧ s.tasks.Vacant Task.region i c := by
    intro id r c hc
    obtain ⟨hhost, rfl⟩ := afterUpsert_region hc
    have hin : (Task.resolveUpsert target host window dateKey scheduledAt).region = some target.id := by
      simp [Task.region, hhost]
    exact ⟨h.quiet i _ _ hi hin, h.alone i _ _ hi hin⟩
  unfold upsert
  cases hfind : s.db.sessions.entries.find? fun e => e.2.livekitRoom == .course target.id dateKey with
  | some e =>
    obtain ⟨id, r⟩ := e
    have hget := Table.get_of_mem (List.mem_of_find?_eq_some hfind)
    have hroom : r.livekitRoom = .course target.id dateKey := by
      have := List.find?_some hfind
      simpa using this
    refine h.goto i (fun c j hc => ?_) hregion
    obtain ⟨rfl, rfl⟩ := afterUpsert_place hc
    exact ⟨r, hget, h.rooms j r _ _ hget hroom⟩
  | none =>
    refine h.insert i hfresh (by simp [LiveSession.create]) ?_ ?_ hregion
    · intro c k hk
      cases hk
      rfl
    · intro c j hc
      obtain ⟨rfl, rfl⟩ := afterUpsert_place hc
      exact ⟨rfl, rfl⟩

theorem Inv.resolveReopen {s : State} (h : Inv s) {i : Nat} {target : Course} {host : Bool}
    {id : SessionId} (hi : s.tasks.get i = some (.resolveReopen target host id)) :
    Inv ((s.modify id reopened).goto i (afterStatus target host id .scheduled)) := by
  have hafter : afterStatus target host id .scheduled
      = if host then some (.resolveGoLive target id) else none := by
    unfold afterStatus
    simp
  rw [hafter]
  refine h.modify i (fun _ => rfl) (fun _ => rfl) (fun _ => by simp [reopened]) ?_ ?_
  · intro c j hc
    split at hc
    · cases hc
      exact h.places i _ _ _ hi rfl
    · cases hc
  · intro c hc
    split at hc
    · rename_i hhost
      cases hc
      have hin : (Task.resolveReopen target host id).region = some target.id := by
        simp [Task.region, hhost]
      exact ⟨h.quiet i _ _ hi hin, h.alone i _ _ hi hin⟩
    · cases hc

/-- One step keeps the invariant when its checks do not overlap. -/
theorem Inv.step {tzdb : String → Option Zone} {s s' : State} {e : Event} (h : Inv s)
    (hok : serial s e = true) (hs : step tzdb s e = some s') : Inv s' := by
  have hspawn : ∀ {i t}, t.place = none → t.region = none → spawn s i t = some s' → Inv s' := by
    intro i t hplace hregion hs
    unfold spawn at hs
    split at hs
    · cases hs
      exact h.idle i hplace hregion
    · cases hs
  cases e with
  | schedule i instructorId dto => exact hspawn rfl rfl hs
  | start i instructorId id => exact hspawn rfl rfl hs
  | finish i user id => exact hspawn rfl rfl hs
  | resolve i user courseId teach => exact hspawn rfl rfl hs
  | fail i =>
    obtain ⟨t, -, rfl⟩ := Option.map_eq_some_iff.1 hs
    exact h.idle i rfl rfl
  | resume i env =>
    have hs : (if env.fresh s then (s.tasks.get i).map (resume tzdb s i env) else none) = some s' := hs
    split at hs
    · rename_i hfresh
      obtain ⟨t, hi, rfl⟩ := Option.map_eq_some_iff.1 hs
      have hnew : s.db.sessions.get env.freshId = none := by
        simp only [Env.fresh, Bool.and_eq_true, Option.isNone_iff_eq_none] at hfresh
        exact hfresh.1
      cases t with
      | scheduleOwner instructorId dto =>
        unfold resume
        refine h.idle i ?_ ?_ <;> (split <;> [split; skip]) <;> rfl
      | scheduleSection dto =>
        unfold resume
        refine h.idle i ?_ ?_ <;> split <;> rfl
      | scheduleCreate dto =>
        exact h.insert i hnew (by simp [LiveSession.create]) (fun c k hk => by cases hk)
          (fun c j hc => by cases hc) (fun c hc => by cases hc)
      | startRead instructorId id => exact h.startRead hi hok
      | startWrite id courseId => exact h.goLive hi rfl rfl env.now
      | endRead user id =>
        unfold resume
        refine h.idle i ?_ ?_ <;> rw [Option.bind_map] <;> exact Option.bind_eq_none_iff.2 fun _ _ => rfl
      | endWrite id =>
        exact h.modify i (fun _ => rfl) (fun _ => rfl) (fun _ => by simp [ended])
          (fun c j hc => by cases hc) (fun c hc => by cases hc)
      | resolveCourse user courseId teach =>
        unfold resume
        refine h.idle i ?_ ?_ <;> rw [Option.bind_map] <;> exact Option.bind_eq_none_iff.2 fun _ _ => rfl
      | resolveRoute user course teach =>
        unfold resume
        refine h.idle i ?_ ?_ <;> rw [Option.bind_map] <;> exact Option.bind_eq_none_iff.2 fun _ _ => rfl
      | resolveLive user target teach => exact h.resolveLive tzdb hi hok
      | resolveUpsert target host window dateKey scheduledAt => exact h.resolveUpsert hi hnew
      | resolveReopen target host id => exact h.resolveReopen hi
      | resolveGoLive target id => exact h.goLive hi rfl rfl env.now
    · cases hs

/-- Sessions with no call in flight. -/
def atRest (db : Db) : State := ⟨db, Pool.empty⟩

theorem Inv.atRest {db : Db} (hrooms : RoomsOwn db.sessions) (hone : OneLive db.sessions) :
    Inv (atRest db) where
  rooms := hrooms
  oneLive := hone
  places := by
    intro i t c id hi
    cases hi
  alone := Pool.exclusive_empty
  quiet := by
    intro i t c hi
    cases hi

/-- In every run of calls whose checks do not overlap, no state has two LIVE sessions of one course. -/
theorem oneLive_of_serial {tzdb : String → Option Zone} {db : Db} {es : List Event} {s : State}
    (hrooms : RoomsOwn db.sessions) (hone : OneLive db.sessions)
    (hok : Meets (step tzdb) (fun s e => serial s e = true) (atRest db) es)
    (hrun : run (step tzdb) (atRest db) es = some s) : OneLive s.db.sessions :=
  (run_inv (fun _ _ _ h hok hs => h.step hok hs) (Inv.atRest hrooms hone) hok hrun).oneLive

namespace Example

/-- Two sessions of one course, both SCHEDULED. -/
def timetable : Db where
  courses := [unscheduled "c" none]
  enrollments := []
  sessions := ⟨[("a", .create "c" none 0 (.session "u")), ("b", .create "c" none 1 (.session "v"))], by decide⟩

def env : Env := ⟨5, "new", "w", false⟩

/-- The instructor starts a session. -/
def started (i : Nat) (id : SessionId) : List Event :=
  [.start i "t" id, .resume i env, .resume i env]

def statuses (s : State) : List (SessionId × SessionStatus) :=
  s.db.sessions.entries.map fun e => (e.1, e.2.status)

theorem timetable_rooms : RoomsOwn timetable.sessions := by
  intro id r c k hr hk
  have hmem := Table.mem_of_get hr
  simp only [timetable, List.mem_cons, List.not_mem_nil, or_false, Prod.mk.injEq] at hmem
  rcases hmem with ⟨-, rfl⟩ | ⟨-, rfl⟩ <;> cases hk

theorem timetable_oneLive : OneLive timetable.sessions := by
  intro id id' r r' hr hr' hs
  have hmem := Table.mem_of_get hr
  simp only [timetable, List.mem_cons, List.not_mem_nil, or_false, Prod.mk.injEq] at hmem
  rcases hmem with ⟨-, rfl⟩ | ⟨-, rfl⟩ <;> cases hs

end Example

open Example in
theorem one_start :
    ∃ s, run (step fun _ => none) (atRest timetable) (started 0 "a") = some s ∧
      statuses s = [("a", .live), ("b", .scheduled)] ∧ OneLive s.db.sessions :=
  ⟨_, rfl, by decide, @oneLive_of_serial (fun _ => none) timetable (started 0 "a") _ timetable_rooms
    timetable_oneLive (by decide) rfl⟩

open Example in
/-- The instructor starts one session after the other: both are LIVE. -/
theorem two_starts :
    RoomsOwn timetable.sessions ∧ OneLive timetable.sessions ∧
    ∃ s, run (step fun _ => none) (atRest timetable) (started 0 "a" ++ started 1 "b") = some s ∧
      ¬ OneLive s.db.sessions := by
  refine ⟨timetable_rooms, timetable_oneLive, _, rfl, fun h => ?_⟩
  have := h "a" "b" _ _ rfl rfl rfl rfl rfl
  revert this
  decide

end Livetich.Sessions
