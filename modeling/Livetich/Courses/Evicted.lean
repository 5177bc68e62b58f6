/-
An unenrolled student is out everywhere, as long as the eviction finds him: it looks for sockets in the root
namespace only, so the sockets of `/board` and `/code` go with it just where they share a connection with a root
socket in the session, and a join past its enrolment check is not looked for at all.

A log beside the state, which no handler reads, says whom a completed `unenroll` has put out of which sessions, for
as long as he is not enrolled again.
-/
import Livetich.Courses.Unenroll

namespace Livetich.Unenroll

open TransSys

variable {courseOf : SessionId → CourseId}

/-! ## Who has been put out -/

structure Log where
  /-- The `unenroll` calls past their deletion, whose student has not been enrolled again. -/
  standing : Slots (UserId × CourseId)
  out : List (UserId × SessionId)

def Log.empty : Log := ⟨fun _ => none, []⟩

/-- The loop of a call has dealt with its last session. -/
def Log.complete (g : Log) (i : Nat) : Task → Log
  | .evict studentId courseId done sessionId [] =>
    if g.standing i = some (studentId, courseId) then
      { g with out := (sessionId :: done).map (studentId, ·) ++ g.out }
    else g
  | _ => g

def observe (s : State) (i : Nat) (g : Log) : Task → Log
  | .deleteEnrollment studentId courseId =>
    if s.enrolled courseId studentId then { g with standing := g.standing.put i (some (studentId, courseId)) } else g
  | t => g.complete i t

/-- The student is enrolled again. -/
def Log.enroll (courseOf : SessionId → CourseId) (g : Log) (studentId : UserId) (courseId : CourseId) : Log where
  standing i := (g.standing i).filter (· != (studentId, courseId))
  out := g.out.filter fun d => !(d.1 == studentId && courseOf d.2 == courseId)

/-- A step, with what is seen of it. -/
def watch (courseOf : SessionId → CourseId) (x : State × Log) (e : Event) : Option (State × Log) :=
  (step courseOf x.1 e).map fun s => (s, match e with
    | .resume i => (x.1.tasks.get i).elim x.2 (observe x.1 i x.2)
    | .reject i => (x.1.tasks.get i).elim x.2 (x.2.complete i)
    | .enroll studentId courseId => x.2.enroll courseOf studentId courseId
    | _ => x.2)

theorem run_watch : ∀ (es : List Event) (s : State) (g : Log),
    (run (watch courseOf) (s, g) es).map (·.1) = run (step courseOf) s es
  | [], _, _ => rfl
  | e :: es, s, g => by
    unfold run watch
    cases step courseOf s e with
    | none => rfl
    | some s' => exact run_watch es s' _

/-! ## When the eviction reaches everyone -/

/-- A socket of the user, as a student. -/
def Sock.ofStudent (k : Sock) (userId : UserId) : Bool :=
  k.user.sub == userId && k.user.role == .student && k.user.recorder.isNone

/-- The join is past its enrolment check. -/
def Task.retains (c : Nat) (sessionId : SessionId) : Task → Bool
  | .joinRetain d x _ => d == c && x == sessionId
  | _ => false

/-- Every connected socket of the student that has joined the session, or is past its enrolment check, is on one of
the connections. -/
def reaches (s : State) (connections : List Nat) (studentId : UserId) (sessionId : SessionId) : Bool :=
  s.sockets.entries.all fun p => connections.contains p.2.connection ||
    !(p.2.ofStudent studentId && p.2.connected &&
      (p.2.sessionIds.contains sessionId || s.tasks.entries.any fun q => q.2.retains p.1 sessionId))

/-- An eviction is taken while every socket it is for shares a connection with a root socket of the student in the
session; one that fails, while there is no such socket. -/
def evictionReaches (s : State) : Event → Bool
  | .resume i => match s.tasks.get i with
    | some (.evict studentId _ _ sessionId _) => reaches s (found s sessionId studentId) studentId sessionId
    | _ => true
  | .reject i => match s.tasks.get i with
    | some (.evict studentId _ _ sessionId _) => reaches s [] studentId sessionId
    | _ => true
  | _ => true

/-! ## Rows and sockets the handlers hold -/

def TaskOk (courseOf : SessionId → CourseId) (s : State) : Task → Prop
  | .joinAuth c _ _ | .joinSession c _ _ | .joinRetain c _ _ => ∃ k, s.sockets.get c = some k
  | .joinPlugin c session | .joinEnrolled c session =>
    (∃ k, s.sockets.get c = some k) ∧ session.course.id = courseOf session.id
  | .evict _ courseId done sessionId rest => ∀ x, x ∈ done ∨ x = sessionId ∨ x ∈ rest → courseOf x = courseId
  | _ => True

structure Wf (courseOf : SessionId → CourseId) (s : State) : Prop where
  rows : ∀ x ∈ s.sessions, x.course.id = courseOf x.id
  tasks : ∀ i t, s.tasks.get i = some t → TaskOk courseOf s t

theorem TaskOk.mono {s s' : State} {t : Task} (h : TaskOk courseOf s t)
    (hsock : ∀ c k, s.sockets.get c = some k → ∃ k', s'.sockets.get c = some k') : TaskOk courseOf s' t := by
  cases t with
  | joinAuth c sessionId teach => obtain ⟨k, hk⟩ := h; exact hsock c k hk
  | joinSession c sessionId teach => obtain ⟨k, hk⟩ := h; exact hsock c k hk
  | joinRetain c sessionId controls => obtain ⟨k, hk⟩ := h; exact hsock c k hk
  | joinPlugin c session => obtain ⟨⟨k, hk⟩, hc⟩ := h; exact ⟨hsock c k hk, hc⟩
  | joinEnrolled c session => obtain ⟨⟨k, hk⟩, hc⟩ := h; exact ⟨hsock c k hk, hc⟩
  | evict studentId courseId done sessionId rest => exact h
  | _ => trivial

namespace Wf

variable {s : State}

theorem goto (h : Wf courseOf s) {i : Nat} {t : Option Task} (ht : ∀ u, t = some u → TaskOk courseOf s u) :
    Wf courseOf (s.goto i t) where
  rows := h.rows
  tasks := by
    intro j u hj
    rcases Pool.get_put_cases hj with ⟨-, hnew⟩ | ⟨-, hold⟩
    · exact ht u hnew
    · exact h.tasks j u hold

theorem ends (h : Wf courseOf s) (i : Nat) : Wf courseOf (s.goto i none) :=
  h.goto (by rintro u ⟨⟩)

theorem setSock (h : Wf courseOf s) (c : Nat) (k : Sock) : Wf courseOf (s.setSock c k) where
  rows := h.rows
  tasks := by
    intro i t ht
    refine (h.tasks i t ht).mono fun d l hd => ?_
    rw [State.setSock, Pool.get_put]
    by_cases hdc : d = c
    · exact ⟨k, by rw [hdc, Slots.put_self]⟩
    · exact ⟨l, by rw [Slots.put_of_ne _ _ hdc]; exact hd⟩

theorem close (h : Wf courseOf s) (connections : List Nat) : Wf courseOf (s.close connections) where
  rows := h.rows
  tasks := by
    intro i t ht
    refine (h.tasks i t ht).mono fun d l hd => ?_
    exact ⟨_, by rw [State.close, Pool.get_map, hd]; rfl⟩

theorem decideJoin (h : Wf courseOf s) {i c : Nat} {k : Sock} {session : LiveSession}
    (hk : ∃ l, s.sockets.get c = some l) (hc : session.course.id = courseOf session.id) :
    Wf courseOf (decideJoin s i c k session) := by
  unfold Unenroll.decideJoin
  split
  · exact h.ends i
  · unfold admitted
    split
    · exact (h.setSock c _).ends i
    · refine h.goto ?_
      rintro u ⟨⟩
      exact hk
  · refine h.goto ?_
    rintro u ⟨⟩
    exact ⟨hk, hc⟩

end Wf

theorem session_of {s : State} {sessionId : SessionId} {x : LiveSession} (h : s.session sessionId = some x) :
    x ∈ s.sessions := List.mem_of_find?_eq_some h

/-- The sessions an `unenroll` goes over are the active ones of its course. -/
theorem evictNext_ok {s : State} {studentId : UserId} {courseId : CourseId} {done rest : List SessionId}
    (h : ∀ x, x ∈ done ∨ x ∈ rest → courseOf x = courseId) :
    ∀ t, evictNext studentId courseId done rest = some t → TaskOk courseOf s t := by
  cases rest with
  | nil => rintro t ⟨⟩
  | cons y ys =>
    rintro t ⟨⟩ x hx
    rcases hx with hx | rfl | hx
    · exact h x (.inl hx)
    · exact h x (.inr List.mem_cons_self)
    · exact h x (.inr (List.mem_cons_of_mem _ hx))

theorem Wf.evictNext {s : State} {i : Nat} {studentId : UserId} {courseId : CourseId} {done rest : List SessionId}
    {sessionId : SessionId} (h : Wf courseOf s)
    (ht : ∀ x, x ∈ done ∨ x = sessionId ∨ x ∈ rest → courseOf x = courseId) :
    Wf courseOf (s.goto i (evictNext studentId courseId (sessionId :: done) rest)) := by
  refine h.goto (evictNext_ok fun x hx => ht x ?_)
  rw [List.mem_cons] at hx
  tauto

theorem Wf.resume {s : State} {i : Nat} {t : Task} (h : Wf courseOf s) (ht : s.tasks.get i = some t) :
    Wf courseOf (resume s i t) := by
  have htask := h.tasks i t ht
  have hgo : ∀ u, TaskOk courseOf s u → Wf courseOf (s.goto i (some u)) := by
    intro u hu
    refine h.goto ?_
    rintro _ ⟨⟩
    exact hu
  cases t with
  | joinAuth c sessionId teach =>
    obtain ⟨k, hk⟩ : ∃ k, s.sockets.get c = some k := htask
    simp only [Unenroll.resume, hk]
    split
    · exact h.ends i
    · exact hgo _ ⟨k, hk⟩
  | joinSession c sessionId teach =>
    obtain ⟨k, hk⟩ : ∃ k, s.sockets.get c = some k := htask
    cases hrow : s.session sessionId with
    | none =>
      simp only [Unenroll.resume, hk, hrow]
      exact h.ends i
    | some session =>
      have hcourse := h.rows session (session_of hrow)
      simp only [Unenroll.resume, hk, hrow, onSession]
      split
      · exact h.ends i
      · split
        · exact hgo _ ⟨⟨k, hk⟩, hcourse⟩
        · refine (h.setSock c _).decideJoin ?_ hcourse
          exact ⟨_, Pool.get_put_self ..⟩
  | joinPlugin c session =>
    obtain ⟨⟨k, hk⟩, hcourse⟩ : (∃ k, s.sockets.get c = some k) ∧ _ := htask
    simp only [Unenroll.resume, hk]
    split
    · exact h.decideJoin ⟨k, hk⟩ hcourse
    · exact h.ends i
  | joinEnrolled c session =>
    obtain ⟨⟨k, hk⟩, hcourse⟩ : (∃ k, s.sockets.get c = some k) ∧ _ := htask
    simp only [Unenroll.resume, hk]
    split
    · unfold admitted
      split
      · exact (h.setSock c _).ends i
      · exact hgo _ ⟨k, hk⟩
    · exact h.ends i
  | joinRetain c sessionId controls =>
    obtain ⟨k, hk⟩ : ∃ k, s.sockets.get c = some k := htask
    simp only [Unenroll.resume, hk]
    exact (h.setSock c _).ends i
  | chatLocked userId sessionId =>
    simp only [Unenroll.resume]
    split
    · exact h.ends i
    · exact hgo _ trivial
  | chatCreate userId sessionId => exact Wf.ends (s := s.post .root sessionId userId) ⟨h.rows, h.tasks⟩ i
  | deleteEnrollment studentId courseId =>
    simp only [Unenroll.resume]
    split
    · refine Wf.goto (s := { s with enrollments := s.enrollments.filter (· != (courseId, studentId)) })
        ⟨h.rows, h.tasks⟩ ?_
      rintro u ⟨⟩
      trivial
    · exact h.ends i
  | findSessions studentId courseId =>
    refine h.goto (evictNext_ok fun x hx => ?_)
    obtain ⟨row, hrow, rfl⟩ := List.mem_map.1 (hx.resolve_left List.not_mem_nil)
    obtain ⟨hmem, hactive⟩ := List.mem_filter.1 hrow
    rw [Bool.and_eq_true, beq_iff_eq] at hactive
    rw [← h.rows row hmem, hactive.1]
  | evict studentId courseId done sessionId rest => exact (h.close _).evictNext htask

theorem Wf.reject {s : State} {i : Nat} {t : Task} (h : Wf courseOf s) (ht : s.tasks.get i = some t) :
    Wf courseOf (reject s i t) := by
  cases t with
  | evict studentId courseId done sessionId rest => exact h.evictNext (h.tasks i _ ht)
  | _ => exact h.ends i

theorem Wf.step {s s' : State} {e : Event} (h : Wf courseOf s) (hs : step courseOf s e = some s') :
    Wf courseOf s' := by
  cases e with
  | connect c nsp connection user =>
    unfold Unenroll.step at hs
    simp only [Option.ite_none_right_eq_some, Option.some.injEq] at hs
    obtain ⟨-, rfl⟩ := hs
    exact h.setSock c _
  | join i c sessionId teach =>
    unfold Unenroll.step at hs
    simp only [Option.ite_none_right_eq_some, Option.map_eq_some_iff] at hs
    obtain ⟨-, k, hk, rfl⟩ := hs
    refine h.goto ?_
    rintro u ⟨⟩
    exact ⟨k, (Option.filter_eq_some_iff.1 hk).1⟩
  | leave c sessionId =>
    obtain ⟨k, -, rfl⟩ := Option.map_eq_some_iff.1 hs
    exact h.setSock c _
  | message i c sessionId m =>
    unfold Unenroll.step at hs
    simp only [Option.ite_none_right_eq_some, Option.map_eq_some_iff] at hs
    obtain ⟨-, k, -, rfl⟩ := hs
    split
    · have hpost : ∀ nsp, Wf courseOf (s.post nsp sessionId k.user.sub) := fun nsp => ⟨h.rows, h.tasks⟩
      cases m with
      | boardUpdate size => exact hpost .board
      | codeUpdate size valid => exact hpost .code
      | chat length =>
        refine h.goto ?_
        rintro u ⟨⟩
        split <;> trivial
      | voice minted =>
        refine h.goto ?_
        rintro u ⟨⟩
        split <;> trivial
    · exact h
  | disconnect c =>
    obtain ⟨k, -, rfl⟩ := Option.map_eq_some_iff.1 hs
    exact h.setSock c _
  | enroll studentId courseId =>
    unfold Unenroll.step at hs
    simp only [Option.ite_none_left_eq_some, Option.some.injEq] at hs
    obtain ⟨-, rfl⟩ := hs
    exact ⟨h.rows, h.tasks⟩
  | unenroll i studentId courseId =>
    unfold Unenroll.step at hs
    simp only [Option.ite_none_right_eq_some, Option.some.injEq] at hs
    obtain ⟨-, rfl⟩ := hs
    refine h.goto ?_
    rintro u ⟨⟩
    trivial
  | session row =>
    unfold Unenroll.step at hs
    simp only [Option.ite_none_right_eq_some, Option.some.injEq] at hs
    obtain ⟨hcourse, rfl⟩ := hs
    refine ⟨fun x hx => ?_, h.tasks⟩
    rcases List.mem_cons.1 hx with rfl | hx
    · exact hcourse
    · exact h.rows x (List.mem_filter.1 hx).1
  | gates gates =>
    cases hs
    exact ⟨h.rows, h.tasks⟩
  | resume i =>
    obtain ⟨t, ht, rfl⟩ := Option.map_eq_some_iff.1 hs
    exact h.resume ht
  | reject i =>
    obtain ⟨t, ht, rfl⟩ := Option.map_eq_some_iff.1 hs
    exact h.reject ht

/-! ## Out of a session -/

/-- No connected socket of the student has joined the session or is past its enrolment check. -/
def Out (s : State) (u : UserId) (y : SessionId) : Prop :=
  ∀ c k, s.sockets.get c = some k → k.ofStudent u = true → k.connected = true →
    y ∉ k.sessionIds ∧ ∀ i b, s.tasks.get i ≠ some (.joinRetain c y b)

theorem ofStudent_congr {k k' : Sock} {u : UserId} (h : k'.user = k.user) : k'.ofStudent u = k.ofStudent u := by
  unfold Sock.ofStudent
  rw [h]

/-- A student's join is up to his enrolment. -/
theorem verdict_student {k : Sock} {u : UserId} (h : k.ofStudent u = true) (session : LiveSession) :
    verdict k.nsp k.user session = .ifEnrolled := by
  simp only [Sock.ofStudent, Bool.and_eq_true, beq_iff_eq] at h
  obtain ⟨⟨-, hrole⟩, hrecorder⟩ := h
  have hnone : k.user.recorder = none := Option.isNone_iff_eq_none.1 hrecorder
  have hwatches : Room.Membership.isRecorder k.user session.id = false := by
    rw [Room.Membership.isRecorder, hnone]
    rfl
  cases hnsp : k.nsp <;> simp [verdict, Room.Membership.verdict, hwatches, hnone, hrole]

namespace Out

variable {s : State} {u : UserId} {y : SessionId}

theorem goto (h : Out s u y) {i : Nat} {t : Option Task}
    (ht : ∀ c b k, t = some (.joinRetain c y b) → s.sockets.get c = some k → k.ofStudent u = true →
      k.connected = true → False) : Out (s.goto i t) u y := by
  intro c k hk hu hc
  refine ⟨(h c k hk hu hc).1, fun j b hj => ?_⟩
  rcases Pool.get_put_cases hj with ⟨-, hnew⟩ | ⟨-, hold⟩
  · exact ht c b k hnew hk hu hc
  · exact (h c k hk hu hc).2 j b hold

theorem ends (h : Out s u y) (i : Nat) : Out (s.goto i none) u y :=
  h.goto (by rintro c b k ⟨⟩)

/-- A socket that joins nothing, or is not the student's. -/
theorem setSock (h : Out s u y) {c : Nat} {k k' : Sock} (hk : s.sockets.get c = some k) (huser : k'.user = k.user)
    (hconnected : k'.connected = true → k.connected = true)
    (hjoin : k.ofStudent u = true → k.connected = true → y ∈ k'.sessionIds → y ∈ k.sessionIds) :
    Out (s.setSock c k') u y := by
  intro d l hd hu hc
  rcases Pool.get_put_cases hd with ⟨rfl, hnew⟩ | ⟨-, hold⟩
  · cases hnew
    rw [ofStudent_congr huser] at hu
    obtain ⟨hnot, hretain⟩ := h d k hk hu (hconnected hc)
    exact ⟨fun hy => hnot (hjoin hu (hconnected hc) hy), hretain⟩
  · exact h d l hold hu hc

theorem close (h : Out s u y) (connections : List Nat) : Out (s.close connections) u y := by
  intro c k hk hu hc
  rw [State.close, Pool.get_map] at hk
  obtain ⟨l, hl, rfl⟩ := Option.map_eq_some_iff.1 hk
  split at hu
  · next hin =>
    rw [if_pos hin] at hc
    cases hc
  · next hin =>
    rw [if_neg hin] at hc ⊢
    exact h c l hl hu hc

theorem enter (h : Out s u y) {c : Nat} {k : Sock} {sessionId : SessionId} {controls : Bool}
    (hk : s.sockets.get c = some k) (hne : k.ofStudent u = true → k.connected = true → sessionId ≠ y) :
    Out (s.setSock c (k.enter sessionId controls)) u y := by
  refine h.setSock hk rfl id fun hu hc hy => ?_
  rcases List.mem_append.1 hy with hy | hy
  · exact (List.mem_filter.1 hy).1
  · exact absurd (List.mem_singleton.1 hy).symm (hne hu hc)

theorem admitted (h : Out s u y) {i c : Nat} {k : Sock} {session : LiveSession} (hk : s.sockets.get c = some k)
    (hne : k.ofStudent u = true → session.id ≠ y) : Out (admitted s i c k session) u y := by
  unfold Unenroll.admitted
  split
  · exact (h.enter hk fun hu _ => hne hu).ends i
  · refine h.goto ?_
    rintro d b l ⟨⟩ hl hu -
    rw [hk] at hl
    cases hl
    exact hne hu rfl

theorem decideJoin (h : Out s u y) {i c : Nat} {k : Sock} {session : LiveSession} (hk : s.sockets.get c = some k) :
    Out (decideJoin s i c k session) u y := by
  unfold Unenroll.decideJoin
  cases hv : verdict k.nsp k.user session with
  | refuse => exact h.ends i
  | enter =>
    refine h.admitted hk fun hu => ?_
    rw [verdict_student hu] at hv
    cases hv
  | ifEnrolled => exact h.goto (by rintro d b l ⟨⟩)

end Out

theorem setTeaching_spec (k : Sock) (sessionId : SessionId) (teach : Bool) :
    (k.setTeaching sessionId teach).user = k.user ∧ (k.setTeaching sessionId teach).connected = k.connected ∧
      (k.setTeaching sessionId teach).sessionIds = k.sessionIds := by
  unfold Sock.setTeaching
  split
  · exact ⟨rfl, rfl, rfl⟩
  · split <;> exact ⟨rfl, rfl, rfl⟩
  · exact ⟨rfl, rfl, rfl⟩

/-- Nobody who is not enrolled comes in. -/
theorem Out.resume {s : State} {u : UserId} {y : SessionId} {i : Nat} {t : Task} (h : Out s u y)
    (hwf : Wf courseOf s) (hnot : (courseOf y, u) ∉ s.enrollments) (ht : s.tasks.get i = some t) :
    Out (resume s i t) u y := by
  have htask := hwf.tasks i t ht
  cases t with
  | joinAuth c sessionId teach =>
    obtain ⟨k, hk⟩ : ∃ k, s.sockets.get c = some k := htask
    simp only [Unenroll.resume, hk]
    split
    · exact h.ends i
    · exact h.goto (by rintro d b l ⟨⟩)
  | joinSession c sessionId teach =>
    obtain ⟨k, hk⟩ : ∃ k, s.sockets.get c = some k := htask
    cases hrow : s.session sessionId with
    | none =>
      simp only [Unenroll.resume, hk, hrow]
      exact h.ends i
    | some session =>
      simp only [Unenroll.resume, hk, hrow, onSession]
      split
      · exact h.ends i
      · split
        · exact h.goto (by rintro d b l ⟨⟩)
        · obtain ⟨huser, hconnected, hsessions⟩ := setTeaching_spec k session.id teach
          refine Out.decideJoin (h.setSock hk huser (hconnected ▸ id) fun _ _ hy => hsessions ▸ hy) ?_
          rw [State.setSock, Pool.get_put_self]
  | joinPlugin c session =>
    obtain ⟨⟨k, hk⟩, -⟩ : (∃ k, s.sockets.get c = some k) ∧ _ := htask
    simp only [Unenroll.resume, hk]
    split
    · exact h.decideJoin hk
    · exact h.ends i
  | joinEnrolled c session =>
    obtain ⟨⟨k, hk⟩, hcourse⟩ : (∃ k, s.sockets.get c = some k) ∧ _ := htask
    simp only [Unenroll.resume, hk]
    split
    · next henrolled =>
      refine h.admitted hk fun hu hid => hnot ?_
      -- the row is that of the session's course
      simp only [Sock.ofStudent, Bool.and_eq_true, beq_iff_eq] at hu
      have hmem : (session.course.id, k.user.sub) ∈ s.enrollments := List.contains_iff_mem.1 henrolled
      rwa [hcourse, hid, hu.1.1] at hmem
    · exact h.ends i
  | joinRetain c sessionId controls =>
    obtain ⟨k, hk⟩ : ∃ k, s.sockets.get c = some k := htask
    simp only [Unenroll.resume, hk]
    refine Out.ends (h.enter hk fun hu hc hid => ?_) i
    rw [hid] at ht
    exact (h c k hk hu hc).2 i controls ht
  | chatLocked userId sessionId =>
    refine h.goto fun c b k htask => ?_
    split at htask <;> cases htask
  | chatCreate userId sessionId => exact Out.ends (s := s.post .root sessionId userId) h i
  | deleteEnrollment studentId courseId =>
    simp only [Unenroll.resume]
    split
    · exact Out.goto (s := { s with enrollments := s.enrollments.filter (· != (courseId, studentId)) }) h
        (by rintro d b l ⟨⟩)
    · exact h.ends i
  | findSessions studentId courseId =>
    refine h.goto fun c b k htask => ?_
    unfold evictNext at htask
    split at htask <;> cases htask
  | evict studentId courseId done sessionId rest =>
    refine Out.goto (h.close _) fun c b k htask => ?_
    unfold evictNext at htask
    split at htask <;> cases htask

theorem Out.reject {s : State} {u : UserId} {y : SessionId} {i : Nat} {t : Task} (h : Out s u y) :
    Out (reject s i t) u y := by
  cases t with
  | evict studentId courseId done sessionId rest =>
    refine h.goto fun c b k htask => ?_
    unfold evictNext at htask
    split at htask <;> cases htask
  | _ => exact h.ends i

theorem Out.step {s s' : State} {u : UserId} {y : SessionId} {e : Event} (h : Out s u y) (hwf : Wf courseOf s)
    (hnot : (courseOf y, u) ∉ s.enrollments) (hs : step courseOf s e = some s') : Out s' u y := by
  cases e with
  | connect c nsp connection user =>
    unfold Unenroll.step at hs
    simp only [Option.ite_none_right_eq_some, Option.some.injEq] at hs
    obtain ⟨⟨hfresh, -⟩, rfl⟩ := hs
    intro d k hk hu hc
    rcases Pool.get_put_cases hk with ⟨rfl, hnew⟩ | ⟨-, hold⟩
    · cases hnew
      refine ⟨List.not_mem_nil, fun i b hi => ?_⟩
      -- no handler holds a socket that has not connected yet
      obtain ⟨l, hl⟩ : ∃ l, s.sockets.get d = some l := hwf.tasks i _ hi
      rw [hfresh] at hl
      cases hl
    · exact h d k hold hu hc
  | join i c sessionId teach =>
    unfold Unenroll.step at hs
    simp only [Option.ite_none_right_eq_some, Option.map_eq_some_iff] at hs
    obtain ⟨-, k, -, rfl⟩ := hs
    exact h.goto (by rintro d b l ⟨⟩)
  | leave c sessionId =>
    obtain ⟨k, hk, rfl⟩ := Option.map_eq_some_iff.1 hs
    exact h.setSock (Option.filter_eq_some_iff.1 hk).1 rfl id fun _ _ hy => (List.mem_filter.1 hy).1
  | message i c sessionId m =>
    unfold Unenroll.step at hs
    simp only [Option.ite_none_right_eq_some, Option.map_eq_some_iff] at hs
    obtain ⟨-, k, -, rfl⟩ := hs
    split
    · cases m with
      | boardUpdate size => exact h
      | codeUpdate size valid => exact h
      | chat length =>
        refine h.goto fun d b l htask => ?_
        split at htask <;> cases htask
      | voice minted =>
        refine h.goto fun d b l htask => ?_
        split at htask <;> cases htask
    · exact h
  | disconnect c =>
    obtain ⟨k, hk, rfl⟩ := Option.map_eq_some_iff.1 hs
    exact h.setSock (Option.filter_eq_some_iff.1 hk).1 rfl (by rintro ⟨⟩) fun _ _ hy => hy
  | enroll studentId courseId =>
    unfold Unenroll.step at hs
    simp only [Option.ite_none_left_eq_some, Option.some.injEq] at hs
    obtain ⟨-, rfl⟩ := hs
    exact h
  | unenroll i studentId courseId =>
    unfold Unenroll.step at hs
    simp only [Option.ite_none_right_eq_some, Option.some.injEq] at hs
    obtain ⟨-, rfl⟩ := hs
    exact h.goto (by rintro d b l ⟨⟩)
  | session row =>
    unfold Unenroll.step at hs
    simp only [Option.ite_none_right_eq_some, Option.some.injEq] at hs
    obtain ⟨-, rfl⟩ := hs
    exact h
  | gates gates =>
    cases hs
    exact h
  | resume i =>
    obtain ⟨t, ht, rfl⟩ := Option.map_eq_some_iff.1 hs
    exact h.resume hwf hnot ht
  | reject i =>
    obtain ⟨t, ht, rfl⟩ := Option.map_eq_some_iff.1 hs
    exact h.reject

theorem retains_iff {t : Task} {c : Nat} {y : SessionId} : t.retains c y = true ↔ ∃ b, t = .joinRetain c y b := by
  cases t with
  | joinRetain d x b =>
    simp only [Task.retains, Bool.and_eq_true, beq_iff_eq, Task.joinRetain.injEq]
    constructor
    · rintro ⟨rfl, rfl⟩
      exact ⟨b, rfl, rfl, rfl⟩
    · rintro ⟨-, rfl, rfl, -⟩
      exact ⟨rfl, rfl⟩
  | _ => simp [Task.retains]

theorem reaches_spec {s : State} {connections : List Nat} {u : UserId} {y : SessionId}
    (h : reaches s connections u y = true) {c : Nat} {k : Sock} (hk : s.sockets.get c = some k)
    (hu : k.ofStudent u = true) (hc : k.connected = true) (hout : k.connection ∉ connections) :
    y ∉ k.sessionIds ∧ ∀ i b, s.tasks.get i ≠ some (.joinRetain c y b) := by
  have hsock := List.all_eq_true.1 h (c, k) (Pool.mem_of_get hk)
  simp only [List.contains_iff_mem, hout, hu, hc, Bool.and_self, Bool.true_and, Bool.not_or, Bool.or_eq_true,
    false_or, Bool.and_eq_true, Bool.not_eq_true'] at hsock
  obtain ⟨hjoined, hway⟩ := hsock
  refine ⟨fun hy => ?_, fun i b hi => ?_⟩
  · rw [List.contains_iff_mem.2 hy] at hjoined
    cases hjoined
  · have := List.any_eq_false.1 hway (i, _) (Pool.mem_of_get hi)
    exact this (retains_iff.2 ⟨b, rfl⟩)

/-- What an eviction closes is out. -/
theorem out_close {s : State} {connections : List Nat} {u : UserId} {y : SessionId}
    (h : reaches s connections u y = true) : Out (s.close connections) u y := by
  intro c k hk hu hc
  rw [State.close, Pool.get_map] at hk
  obtain ⟨l, hl, rfl⟩ := Option.map_eq_some_iff.1 hk
  split at hu
  · next hin =>
    rw [if_pos hin] at hc
    cases hc
  · next hin =>
    rw [if_neg hin] at hc ⊢
    exact reaches_spec h hl hu hc hin

/-! ## Whoever has been put out stays out -/

structure Gone (courseOf : SessionId → CourseId) (s : State) (g : Log) : Prop where
  standing : ∀ i u c, g.standing i = some (u, c) → (c, u) ∉ s.enrollments
  done : ∀ i u c done x rest, s.tasks.get i = some (.evict u c done x rest) → g.standing i = some (u, c) →
    ∀ y ∈ done, Out s u y
  out : ∀ d ∈ g.out, (courseOf d.2, d.1) ∉ s.enrollments ∧ Out s d.1 d.2

/-- A step that enrols nobody, and whose evictions are those under way or have dealt with no session. -/
theorem Gone.next {s s' : State} {g : Log} {e : Event} (h : Gone courseOf s g) (hwf : Wf courseOf s)
    (hs : step courseOf s e = some s') (henrolled : ∀ p ∈ s'.enrollments, p ∈ s.enrollments)
    (hevict : ∀ i u c done x rest, s'.tasks.get i = some (.evict u c done x rest) →
      s.tasks.get i = some (.evict u c done x rest) ∨ done = []) : Gone courseOf s' g := by
  refine ⟨fun j u c hj hmem => h.standing j u c hj (henrolled _ hmem),
    fun j u c done x rest hj hstanding y hy => ?_, fun d hd => ?_⟩
  · rcases hevict j u c done x rest hj with hold | rfl
    · have hcourse := hwf.tasks j _ hold y (.inl hy)
      refine (h.done j u c done x rest hold hstanding y hy).step hwf ?_ hs
      rw [hcourse]
      exact h.standing j u c hstanding
    · exact absurd hy List.not_mem_nil
  · obtain ⟨hnot, hout⟩ := h.out d hd
    exact ⟨fun hmem => hnot (henrolled _ hmem), hout.step hwf hnot hs⟩

theorem Gone.still {s s' : State} {g : Log} {e : Event} (h : Gone courseOf s g) (hwf : Wf courseOf s)
    (hs : step courseOf s e = some s') (htasks : s'.tasks = s.tasks) (henrolled : s'.enrollments = s.enrollments) :
    Gone courseOf s' g := by
  refine h.next hwf hs (fun p hp => henrolled ▸ hp) fun i u c done x rest hi => .inl ?_
  rwa [htasks] at hi

/-- An eviction that leaves nobody in its session. -/
theorem Gone.evicted {s s' : State} {g : Log} {e : Event} {i : Nat} {u : UserId} {c : CourseId}
    {done rest : List SessionId} {x : SessionId} (h : Gone courseOf s g) (hwf : Wf courseOf s)
    (hs : step courseOf s e = some s') (ht : s.tasks.get i = some (.evict u c done x rest))
    (htasks : s'.tasks = s.tasks.put i (evictNext u c (x :: done) rest)) (henrolled : s'.enrollments = s.enrollments)
    (hx : Out s' u x) : Gone courseOf s' (g.complete i (.evict u c done x rest)) := by
  have hnow : g.standing i = some (u, c) → ∀ y ∈ x :: done, Out s' u y ∧ courseOf y = c := by
    intro hstanding y hy
    rcases List.mem_cons.1 hy with rfl | hy
    · exact ⟨hx, hwf.tasks i _ ht y (.inr (.inl rfl))⟩
    · have hcourse := hwf.tasks i _ ht y (.inl hy)
      refine ⟨(h.done i u c done x rest ht hstanding y hy).step hwf ?_ hs, hcourse⟩
      rw [hcourse]
      exact h.standing i u c hstanding
  have hgone : Gone courseOf s' g := by
    refine ⟨?_, fun j v d dn z r hj hstanding y hy => ?_, fun d hd => ?_⟩
    · rw [henrolled]
      exact h.standing
    · rw [htasks] at hj
      rcases Pool.get_put_cases hj with ⟨rfl, hnew⟩ | ⟨-, hold⟩
      · cases rest with
        | nil => cases hnew
        | cons z' r' =>
          cases hnew
          exact (hnow hstanding y hy).1
      · have hcourse := hwf.tasks j _ hold y (.inl hy)
        refine (h.done j v d dn z r hold hstanding y hy).step hwf ?_ hs
        rw [hcourse]
        exact h.standing j v d hstanding
    · obtain ⟨hnot, hout⟩ := h.out d hd
      rw [henrolled]
      exact ⟨hnot, hout.step hwf hnot hs⟩
  cases rest with
  | cons z r => exact hgone
  | nil =>
    by_cases hstanding : g.standing i = some (u, c)
    · rw [Log.complete, if_pos hstanding]
      refine ⟨hgone.standing, hgone.done, fun d hd => ?_⟩
      rcases List.mem_append.1 hd with hd | hd
      · obtain ⟨y, hy, rfl⟩ := List.mem_map.1 hd
        obtain ⟨hout, hcourse⟩ := hnow hstanding y hy
        refine ⟨?_, hout⟩
        rw [hcourse, henrolled]
        exact h.standing i u c hstanding
      · exact hgone.out d hd
    · rw [Log.complete, if_neg hstanding]
      exact hgone

/-- Task `i` goes on without evicting yet, and nobody is enrolled. -/
def Calm (s s' : State) (i : Nat) : Prop :=
  ∃ t, s'.tasks = s.tasks.put i t ∧ (∀ u c done x rest, t = some (.evict u c done x rest) → done = []) ∧
    ∀ p ∈ s'.enrollments, p ∈ s.enrollments

theorem calm_goto {s : State} {i : Nat} {t : Option Task}
    (ht : ∀ u c done x rest, t = some (.evict u c done x rest) → done = []) : Calm s (s.goto i t) i :=
  ⟨t, rfl, ht, fun _ hp => hp⟩

theorem calm_admitted (s : State) (i c : Nat) (k : Sock) (session : LiveSession) :
    Calm s (admitted s i c k session) i := by
  unfold admitted
  split
  · exact calm_goto (s := s.setSock c (k.enter session.id false)) (by rintro u c done x rest ⟨⟩)
  · exact calm_goto (by rintro u c done x rest ⟨⟩)

theorem calm_decideJoin (s : State) (i c : Nat) (k : Sock) (session : LiveSession) :
    Calm s (decideJoin s i c k session) i := by
  unfold decideJoin
  split
  · exact calm_goto (by rintro u c done x rest ⟨⟩)
  · exact calm_admitted s i c k session
  · exact calm_goto (by rintro u c done x rest ⟨⟩)

theorem calm_resume {s : State} {i : Nat} {t : Task} (ht : ∀ u c done x rest, t ≠ .evict u c done x rest) :
    Calm s (resume s i t) i := by
  have hend : Calm s (s.goto i none) i := calm_goto (by rintro u c done x rest ⟨⟩)
  cases t with
  | joinAuth c sessionId teach =>
    simp only [resume]
    split
    · split
      · exact hend
      · exact calm_goto (by rintro u c done x rest ⟨⟩)
    · exact hend
  | joinSession c sessionId teach =>
    simp only [resume]
    split
    · next k session hk hrow =>
      unfold onSession
      split
      · exact hend
      · split
        · exact calm_goto (by rintro u c done x rest ⟨⟩)
        · exact calm_decideJoin (s.setSock c _) i c _ session
    · exact hend
  | joinPlugin c session =>
    simp only [resume]
    split
    · split
      · exact calm_decideJoin s i c _ session
      · exact hend
    · exact hend
  | joinEnrolled c session =>
    simp only [resume]
    split
    · split
      · exact calm_admitted s i c _ session
      · exact hend
    · exact hend
  | joinRetain c sessionId controls =>
    simp only [resume]
    split
    · exact calm_goto (s := s.setSock c _) (by rintro u c done x rest ⟨⟩)
    · exact hend
  | chatLocked userId sessionId =>
    refine calm_goto fun u c done x rest h => ?_
    split at h <;> cases h
  | chatCreate userId sessionId =>
    exact calm_goto (s := s.post .root sessionId userId) (by rintro u c done x rest ⟨⟩)
  | deleteEnrollment studentId courseId =>
    simp only [resume]
    split
    · refine ⟨_, rfl, by rintro u c done x rest ⟨⟩, fun p hp => (List.mem_filter.1 hp).1⟩
    · exact hend
  | findSessions studentId courseId =>
    refine calm_goto fun u c done x rest h => ?_
    unfold evictNext at h
    split at h <;> cases h
    rfl
  | evict u c done x rest => exact absurd rfl (ht u c done x rest)

theorem calm_reject {s : State} {i : Nat} {t : Task} (ht : ∀ u c done x rest, t ≠ .evict u c done x rest) :
    Calm s (reject s i t) i := by
  cases t with
  | evict u c done x rest => exact absurd rfl (ht u c done x rest)
  | _ => exact calm_goto (by rintro u c done x rest ⟨⟩)

theorem Gone.calm {s s' : State} {g : Log} {e : Event} {i : Nat} (h : Gone courseOf s g) (hwf : Wf courseOf s)
    (hs : step courseOf s e = some s') (hcalm : Calm s s' i) : Gone courseOf s' g := by
  obtain ⟨t, htasks, ht, henrolled⟩ := hcalm
  refine h.next hwf hs henrolled fun j u c done x rest hj => ?_
  rw [htasks] at hj
  rcases Pool.get_put_cases hj with ⟨-, hnew⟩ | ⟨-, hold⟩
  · exact .inr (ht u c done x rest hnew)
  · exact .inl hold

/-- The enrolment goes, and with it every later join. -/
theorem Gone.delete {s : State} {g : Log} {i : Nat} {u : UserId} {c : CourseId} (h : Gone courseOf s g)
    (hwf : Wf courseOf s) (ht : s.tasks.get i = some (.deleteEnrollment u c)) :
    Gone courseOf (resume s i (.deleteEnrollment u c)) (observe s i g (.deleteEnrollment u c)) := by
  have hs : step courseOf s (.resume i) = some (resume s i (.deleteEnrollment u c)) := by
    rw [step, ht]
    rfl
  have hgone : Gone courseOf (resume s i (.deleteEnrollment u c)) g :=
    h.calm hwf hs (calm_resume (by rintro u c done x rest ⟨⟩))
  by_cases henrolled : s.enrolled c u = true
  · rw [observe, if_pos henrolled]
    refine ⟨fun j v d hj => ?_, fun j v d done x rest hj hstanding y hy => ?_, hgone.out⟩
    · rcases Slots.put_eq_some hj with ⟨-, hnew⟩ | ⟨-, hold⟩
      · cases hnew
        simp only [resume, if_pos henrolled]
        intro hmem
        have := (List.mem_filter.1 hmem).2
        simp at this
      · exact hgone.standing j v d hold
    · rcases Slots.put_eq_some hstanding with ⟨rfl, -⟩ | ⟨-, hold⟩
      · simp only [resume, if_pos henrolled, State.goto, Pool.get_put_self] at hj
        cases hj
      · exact hgone.done j v d done x rest hj hold y hy
  · rw [observe, if_neg henrolled]
    exact hgone

theorem Gone.enroll {s s' : State} {g : Log} {u : UserId} {c : CourseId} (h : Gone courseOf s g)
    (hs : step courseOf s (.enroll u c) = some s') : Gone courseOf s' (g.enroll courseOf u c) := by
  unfold Unenroll.step at hs
  simp only [Option.ite_none_left_eq_some, Option.some.injEq] at hs
  obtain ⟨-, rfl⟩ := hs
  refine ⟨fun j v d hj hmem => ?_, fun j v d done x rest hj hstanding y hy => ?_, fun d hd => ?_⟩
  · obtain ⟨hold, hne⟩ := Option.filter_eq_some_iff.1 hj
    rcases List.mem_cons.1 hmem with heq | hmem
    · cases heq
      simp at hne
    · exact h.standing j v d hold hmem
  · exact h.done j v d done x rest hj (Option.filter_eq_some_iff.1 hstanding).1 y hy
  · obtain ⟨hd, hne⟩ := List.mem_filter.1 hd
    obtain ⟨hnot, hout⟩ := h.out d hd
    refine ⟨fun hmem => ?_, hout⟩
    rcases List.mem_cons.1 hmem with heq | hmem
    · rw [Prod.mk.injEq] at heq
      simp [heq.1, heq.2] at hne
    · exact hnot hmem

theorem watch_gone {x y : State × Log} {e : Event} (hwf : Wf courseOf x.1) (h : Gone courseOf x.1 x.2)
    (hok : evictionReaches x.1 e = true) (hstep : watch courseOf x e = some y) : Gone courseOf y.1 y.2 := by
  obtain ⟨s, g⟩ := x
  obtain ⟨s', hs, rfl⟩ := Option.map_eq_some_iff.1 hstep
  have hstep := hs
  cases e with
  | connect c nsp connection user =>
    unfold Unenroll.step at hs
    simp only [Option.ite_none_right_eq_some, Option.some.injEq] at hs
    obtain ⟨-, rfl⟩ := hs
    exact h.still hwf hstep rfl rfl
  | join i c sessionId teach =>
    unfold Unenroll.step at hs
    simp only [Option.ite_none_right_eq_some, Option.map_eq_some_iff] at hs
    obtain ⟨-, k, -, rfl⟩ := hs
    exact h.calm hwf hstep (calm_goto (by rintro u c done x rest ⟨⟩))
  | leave c sessionId =>
    obtain ⟨k, -, rfl⟩ := Option.map_eq_some_iff.1 hs
    exact h.still hwf hstep rfl rfl
  | message i c sessionId m =>
    unfold Unenroll.step at hs
    simp only [Option.ite_none_right_eq_some, Option.map_eq_some_iff] at hs
    obtain ⟨-, k, -, rfl⟩ := hs
    split at hstep
    · next hadmits =>
      rw [if_pos hadmits]
      cases m with
      | boardUpdate size => exact h.still hwf hstep rfl rfl
      | codeUpdate size valid => exact h.still hwf hstep rfl rfl
      | chat length =>
        refine h.calm hwf hstep (calm_goto fun u c done x rest ht => ?_)
        split at ht <;> cases ht
      | voice minted =>
        refine h.calm hwf hstep (calm_goto fun u c done x rest ht => ?_)
        split at ht <;> cases ht
    · next hrefused =>
      rw [if_neg hrefused]
      exact h.still hwf hstep rfl rfl
  | disconnect c =>
    obtain ⟨k, -, rfl⟩ := Option.map_eq_some_iff.1 hs
    exact h.still hwf hstep rfl rfl
  | enroll u c => exact h.enroll hs
  | unenroll i u c =>
    unfold Unenroll.step at hs
    simp only [Option.ite_none_right_eq_some, Option.some.injEq] at hs
    obtain ⟨-, rfl⟩ := hs
    exact h.calm hwf hstep (calm_goto (by rintro u c done x rest ⟨⟩))
  | session row =>
    unfold Unenroll.step at hs
    simp only [Option.ite_none_right_eq_some, Option.some.injEq] at hs
    obtain ⟨-, rfl⟩ := hs
    exact h.still hwf hstep rfl rfl
  | gates gates =>
    cases hs
    exact h.still hwf hstep rfl rfl
  | resume i =>
    obtain ⟨t, ht, rfl⟩ := Option.map_eq_some_iff.1 hs
    simp only [evictionReaches, ht] at hok
    simp only [ht]
    cases t with
    | evict u c done x rest =>
      refine h.evicted hwf hstep ht rfl rfl ?_
      refine Out.goto (out_close hok) fun c b k htask => ?_
      unfold evictNext at htask
      split at htask <;> cases htask
    | deleteEnrollment u c => exact h.delete hwf ht
    | _ => exact h.calm hwf hstep (calm_resume (by rintro u c done x rest ⟨⟩))
  | reject i =>
    obtain ⟨t, ht, rfl⟩ := Option.map_eq_some_iff.1 hs
    simp only [evictionReaches, ht] at hok
    simp only [ht]
    cases t with
    | evict u c done x rest =>
      refine h.evicted hwf hstep ht rfl rfl ?_
      have hout : Out s u x := fun d k hk hu hc => reaches_spec hok hk hu hc List.not_mem_nil
      refine hout.goto fun c b k htask => ?_
      unfold evictNext at htask
      split at htask <;> cases htask
    | _ => exact h.calm hwf hstep (calm_reject (by rintro u c done x rest ⟨⟩))

/-! ## An unenrolled student is out everywhere -/

/-- Whoever has been put out of a session has no socket in it, sends nothing to it, and would need a new enrolment
to join. -/
def OutEverywhere (courseOf : SessionId → CourseId) (s : State) (g : Log) : Prop :=
  ∀ d ∈ g.out, s.enrolled (courseOf d.2) d.1 = false ∧
    ∀ c k, s.sockets.get c = some k → k.ofStudent d.1 = true →
      (k.connected = true → d.2 ∉ k.sessionIds) ∧
      ∀ i m s', step courseOf s (.message i c d.2 m) = some s' → s' = s

theorem admits_joined {gates : Gates} {k : Sock} {sessionId : SessionId} {m : Message}
    (h : admits gates k sessionId m = true) : sessionId ∈ k.sessionIds := by
  cases m <;> simp only [admits, Bool.and_eq_true, List.contains_iff_mem] at h <;> tauto

theorem outEverywhere {s : State} {g : Log} (h : Gone courseOf s g) : OutEverywhere courseOf s g := by
  intro d hd
  obtain ⟨hnot, hout⟩ := h.out d hd
  refine ⟨?_, fun c k hk hu => ⟨fun hc => (hout c k hk hu hc).1, fun i m s' hs => ?_⟩⟩
  · rw [← Bool.not_eq_true, State.enrolled, List.contains_iff_mem]
    exact hnot
  · unfold step at hs
    simp only [Option.ite_none_right_eq_some, Option.map_eq_some_iff, hk] at hs
    obtain ⟨-, l, hl, rfl⟩ := hs
    obtain ⟨heq, hheard⟩ := Option.filter_eq_some_iff.1 hl
    cases heq
    have hc : k.connected = true := (Bool.and_eq_true_iff.1 hheard).1
    exact if_neg fun hadmits => (hout c k hk hu hc).1 (admits_joined hadmits)

/-- In every run whose evictions reach every socket they are for, an unenrolled student is out everywhere. -/
theorem unenrolled_out (courseOf : SessionId → CourseId) (es : List Event) (x : State × Log)
    (hok : Meets (watch courseOf) (fun x e => evictionReaches x.1 e = true) (init, Log.empty) es)
    (h : run (watch courseOf) (init, Log.empty) es = some x) : OutEverywhere courseOf x.1 x.2 := by
  have hinit : Wf courseOf init ∧ Gone courseOf init Log.empty :=
    ⟨⟨nofun, by rintro i t ⟨⟩⟩, ⟨by rintro i u c ⟨⟩, by rintro i u c done x rest ⟨⟩, nofun⟩⟩
  refine outEverywhere (TransSys.run_inv (I := fun x => Wf courseOf x.1 ∧ Gone courseOf x.1 x.2) ?_ hinit hok h).2
  rintro x e y ⟨hwf, hgone⟩ hok hstep
  refine ⟨?_, watch_gone hwf hgone hok hstep⟩
  obtain ⟨s', hs, rfl⟩ := Option.map_eq_some_iff.1 hstep
  exact hwf.step hs

/-! ## The chalkboard on a second device -/

namespace Example

def amina : JwtPayload := ⟨"a", .student, "Amina", some "org", none, none⟩

def course (_ : SessionId) : CourseId := "course"

def lesson : LiveSession := ⟨"s", .live, ⟨"course", some "t", some "org", some [Sockets.pluginCodeInstruction]⟩⟩

/-- The lesson is on, its board open to students, and Amina enrolled. -/
def opening : List Event := [.session lesson, .gates ⟨["s"], [], [], []⟩, .enroll "a" "course"]

/-- A socket of Amina's connects and joins the lesson. -/
def joins (c : Nat) (nsp : Nsp) (connection calls : Nat) : List Event :=
  [.connect c nsp connection amina, .join 10 c "s" false] ++ List.replicate calls (.resume 10)

def leaving : List Event := .unenroll 20 "a" "course" :: List.replicate 3 (.resume 20)

/-- Amina is in the room, on the board and in the code editor by one connection. After she has left the program
she connects again, and is not let in. -/
def oneDevice : List Event :=
  opening ++ joins 0 .root 1 3 ++ joins 1 .board 1 4 ++ joins 2 .code 1 5 ++ leaving ++ joins 3 .root 2 3

/-- The board is open on another device. -/
def twoDevices : List Event :=
  opening ++ joins 0 .root 1 3 ++ joins 1 .board 2 4 ++ leaving ++ [.message 30 1 "s" (.boardUpdate 8)]

end Example

open Example in
theorem oneDevice_out :
    ((run (watch course) (init, Log.empty) oneDevice).map fun x =>
      (x.2.out, x.1.sockets.entries.map fun p => (p.1, p.2.connected, p.2.sessionIds))) =
        some ([("a", "s")], [(3, true, []), (2, false, ["s"]), (1, false, ["s"]), (0, false, ["s"])]) ∧
    ∀ x, run (watch course) (init, Log.empty) oneDevice = some x → OutEverywhere course x.1 x.2 :=
  ⟨by decide, fun x h => unenrolled_out course oneDevice x (by decide) h⟩

open Example in
/-- The board keeps a student who has left the program, and takes what he draws. -/
theorem twoDevices_stays :
    ¬ ∀ (courseOf : SessionId → CourseId) (es : List Event) (x : State × Log),
      run (watch courseOf) (init, Log.empty) es = some x → OutEverywhere courseOf x.1 x.2 := by
  intro h
  have hrun : ((run (watch course) (init, Log.empty) twoDevices).map fun x =>
      ((x.2.out, x.1.posts), (x.1.sockets.get 1).map fun k => (k.ofStudent "a", k.connected, k.sessionIds))) =
        some (([("a", "s")], [⟨.board, "s", "a"⟩]), some (true, true, ["s"])) := by decide
  obtain ⟨x, hx, hseen⟩ := Option.map_eq_some_iff.1 hrun
  simp only [Prod.mk.injEq] at hseen
  obtain ⟨⟨hout, -⟩, hsock⟩ := hseen
  obtain ⟨k, hk, heq⟩ := Option.map_eq_some_iff.1 hsock
  simp only [Prod.mk.injEq] at heq
  obtain ⟨hu, hc, hjoined⟩ := heq
  have hd : ("a", "s") ∈ x.2.out := by rw [hout]; exact List.mem_cons_self
  have hnot := ((h course twoDevices x hx ("a", "s") hd).2 1 k hk hu).1 hc
  rw [hjoined] at hnot
  exact hnot List.mem_cons_self

end Livetich.Unenroll
