/-
Pushes to the staff of a session: `onJoin` puts a socket that is not a student's into a second room
beside the session's own, and `RoomBroadcaster.emitToSessionStaff` emits to that room. In every run
in which no socket sends `room:leave` for a session whose staff room it is in, and in which every
socket that is admitted as staff is still connected and not a recorder's, who is in the staff room
of a session has joined that session, last on a row that makes the user its instructor or an admin
of its organization.

`onLeave` leaves the session's room only. A recorder's token carries the role of the person who
pressed Record, so its page enters the staff room too. A join that is answered after the connection
is lost enters both rooms for a socket that is gone.
-/
import Livetich.Room.Membership

namespace Livetich.Room.Staff

open TransSys
open Livetich.Room.Membership (Sock)

/-! ## State and steps -/

structure State where
  room : Membership.State
  /-- Who was admitted on which row, newest first; no handler reads this. -/
  admitted : List (Nat × SessionId × LiveSession)

def init : State := ⟨Membership.init, []⟩

/-- The socket, the session and the row of a join that the session row alone allows. -/
def admits (r : Membership.State) : Membership.Event → Option (Nat × SessionId × LiveSession)
  | .session i (some session) => match r.tasks.get i with
    | some (.joinSession c sessionId _) => (r.sockets.get c).bind fun k =>
      if session.status ≠ .ended ∧ Membership.verdict k.user sessionId session = .enter then
        some (c, sessionId, session)
      else none
    | _ => none
  | _ => none

inductive Event
  | room (e : Membership.Event)
  /-- `evictUserFromSession` closes one of the sockets it found; its `handleDisconnect` is task `i`. -/
  | evict (i c : Nat) (sessionId : SessionId)

/-- `socket.leave` and `socket.disconnect` of `evictUserFromSession`. -/
def evict (r : Membership.State) (i c : Nat) (k : Sock) (sessionId : SessionId) : Membership.State :=
  Membership.disconnect r i c { k with rooms := k.rooms.filter (· != sessionId) }

def step (s : State) : Event → Option State
  | .room e => (Membership.step s.room e).map fun r => ⟨r, (admits s.room e).toList ++ s.admitted⟩
  | .evict i c sessionId =>
    if s.room.tasks.get i = none then
      ((s.room.sockets.get c).filter (·.connected)).map fun k =>
        { s with room := evict s.room i c k sessionId }
    else none

/-- The sockets a push to the staff of a session is delivered to. -/
def emitToSessionStaff (r : Membership.State) (sessionId : SessionId) : List Nat :=
  (r.sockets.entries.filter fun p => p.2.connected && p.2.staffRooms.contains sessionId).map (·.1)

/-! ## The property -/

/-- The user is the instructor of the session's course, or an admin of its organization. -/
def owns (user : JwtPayload) (session : LiveSession) : Bool :=
  match user.role with
  | .instructor => session.course.instructorId == some user.sub
  | .orgAdmin => session.course.organizationId == user.organizationId
  | .student => false

/-- The row on which the socket was last admitted to the session. -/
def lastAdmitted (admitted : List (Nat × SessionId × LiveSession)) (c : Nat) (sessionId : SessionId) :
    Option LiveSession :=
  (admitted.find? fun a => a.1 == c && a.2.1 == sessionId).map (·.2.2)

/-- Socket `k`, numbered `c`, is present in the session as one of its staff. -/
structure Present (admitted : List (Nat × SessionId × LiveSession)) (c : Nat) (k : Sock)
    (sessionId : SessionId) : Prop where
  connected : k.connected = true
  joined : sessionId ∈ k.rooms
  person : k.user.recorder = none
  staff : ∃ session, lastAdmitted admitted c sessionId = some session ∧ owns k.user session = true

/-- Who is in the staff room of a session is present in it as staff. -/
def StaffPresent (s : State) : Prop :=
  ∀ c k sessionId, s.room.sockets.get c = some k → sessionId ∈ k.staffRooms → Present s.admitted c k sessionId

/-! ## The condition -/

/-- No socket leaves a session whose staff room it is in; a socket that is admitted as staff is
connected and not a recorder's. -/
def sound (s : State) : Event → Bool
  | .room (.leave _ c sessionId) => (s.room.sockets.get c).all fun k =>
    k.user.recorder.isSome || !k.staffRooms.contains sessionId
  | .room e => (admits s.room e).all fun a => (s.room.sockets.get a.1).all fun k =>
    k.user.role == .student || (k.connected && k.user.recorder.isNone)
  | .evict .. => true

/-! ## What a step does to the sockets and the tasks -/

/-- The socket a step of the room changes, and what it becomes. -/
inductive Touched (r : Membership.State) : Membership.Event → Nat → Sock → Prop
  | connected {c user} : r.sockets.get c = none → Touched r (.connect c user) c (Sock.new user)
  | left {i c k sessionId} : r.sockets.get c = some k → k.user.recorder = none →
    Touched r (.leave i c sessionId) c (k.leave sessionId)
  | lost {i c k} : r.sockets.get c = some k → Touched r (.disconnect i c) c (Sock.drop k)
  | flagged {e c k teaching shadow} : r.sockets.get c = some k → admits r e = none →
    Touched r e c { k with teaching := teaching, shadow := shadow }
  | admitted {i c k sessionId session number teaching shadow} : r.sockets.get c = some k →
    admits r (.session i (some session)) = some (c, sessionId, session) →
    Touched r (.session i (some session)) c
      (Sock.enter { k with teaching := teaching, shadow := shadow } number sessionId shadow)
  | enrolled {i c k sessionId number} : r.sockets.get c = some k →
    r.tasks.get i = some (.joinEnrolled c sessionId) →
    Touched r (.enrolled i true) c (k.enter number sessionId false)

theorem onSession_sockets {r : Membership.State} {i c : Nat} {k : Sock} {sessionId : SessionId} {teach : Bool}
    {row : Option LiveSession} (hi : r.tasks.get i = some (.joinSession c sessionId teach))
    (hk : r.sockets.get c = some k) :
    ((Membership.onSession r i c k sessionId teach row).sockets = r.sockets ∧ admits r (.session i row) = none) ∨
      ∃ k', (Membership.onSession r i c k sessionId teach row).sockets = r.sockets.put c (some k') ∧
        Touched r (.session i row) c k' := by
  cases row with
  | none => exact .inl ⟨rfl, rfl⟩
  | some session =>
    have hadmits : admits r (.session i (some session)) =
        if session.status ≠ .ended ∧ Membership.verdict k.user sessionId session = .enter then
          some (c, sessionId, session) else none := by
      simp only [admits, hi, hk, Option.bind_some]
    unfold Membership.onSession
    by_cases hended : session.status = .ended
    · simp only [hended, ite_true]
      exact .inl ⟨rfl, by rw [hadmits, if_neg fun h => h.1 hended]⟩
    · simp only [hended, ite_false]
      refine .inr ?_
      cases hv : Membership.verdict k.user sessionId session with
      | refuse => exact ⟨_, rfl, .flagged hk (by rw [hadmits, if_neg (by simp [hv])])⟩
      | enter => exact ⟨_, rfl, .admitted hk (by rw [hadmits, if_pos ⟨hended, hv⟩])⟩
      | ifEnrolled => exact ⟨_, rfl, .flagged hk (by rw [hadmits, if_neg (by simp [hv])])⟩

theorem resume_sockets {r r' : Membership.State} {i : Nat} {k : Sock} {t : Membership.Task}
    (h : Membership.resume r i k t = some r') : r'.sockets = r.sockets := by
  cases t <;> simp only [Membership.resume, Option.some.injEq, reduceCtorEq] at h <;> rw [← h] <;> rfl

theorem step_sockets {r r' : Membership.State} {e : Membership.Event} (h : Membership.step r e = some r') :
    (r'.sockets = r.sockets ∧ admits r e = none) ∨
      ∃ c k, r'.sockets = r.sockets.put c (some k) ∧ Touched r e c k := by
  cases e with
  | connect c user =>
    unfold Membership.step at h
    simp only [Option.ite_none_right_eq_some, Option.some.injEq] at h
    obtain ⟨⟨hc, -⟩, rfl⟩ := h
    exact .inr ⟨c, _, rfl, .connected hc⟩
  | join i c sessionId teach =>
    unfold Membership.step at h
    simp only [Option.ite_none_right_eq_some, Option.some.injEq] at h
    obtain ⟨-, rfl⟩ := h
    exact .inl ⟨rfl, rfl⟩
  | leave i c sessionId =>
    unfold Membership.step at h
    simp only [Option.ite_none_right_eq_some, Option.map_eq_some_iff, Option.filter_eq_some_iff] at h
    obtain ⟨-, k, ⟨hk, -⟩, rfl⟩ := h
    unfold Membership.leave
    by_cases hrec : k.user.recorder.isSome = true
    · rw [if_pos hrec]
      exact .inl ⟨rfl, rfl⟩
    · rw [if_neg hrec]
      exact .inr ⟨c, _, rfl, .left hk (by simpa using hrec)⟩
  | disconnect i c =>
    unfold Membership.step at h
    simp only [Option.ite_none_right_eq_some, Option.map_eq_some_iff, Option.filter_eq_some_iff] at h
    obtain ⟨-, k, ⟨hk, -⟩, rfl⟩ := h
    exact .inr ⟨c, _, rfl, .lost hk⟩
  | authReady i permitted =>
    unfold Membership.step at h
    dsimp only at h
    split at h
    · cases h
      exact .inl ⟨rfl, rfl⟩
    · cases h
  | session i row =>
    unfold Membership.step at h
    dsimp only at h
    split at h
    · rename_i c sessionId teach hi
      obtain ⟨k, hk, rfl⟩ := Option.map_eq_some_iff.1 h
      exact (onSession_sockets hi hk).imp_right fun ⟨k', h⟩ => ⟨c, k', h⟩
    · cases h
  | enrolled i found =>
    unfold Membership.step at h
    dsimp only at h
    split at h
    · rename_i c sessionId hi
      obtain ⟨k, hk, rfl⟩ := Option.map_eq_some_iff.1 h
      cases found with
      | false => exact .inl ⟨rfl, rfl⟩
      | true => exact .inr ⟨c, _, rfl, .enrolled hk hi⟩
    · cases h
  | resume i =>
    unfold Membership.step at h
    simp only [Option.bind_eq_some_iff] at h
    obtain ⟨t, -, k, -, h⟩ := h
    exact .inl ⟨resume_sockets h, rfl⟩

theorem verdict_ifEnrolled {user : JwtPayload} {sessionId : SessionId} {session : LiveSession}
    (h : Membership.verdict user sessionId session = .ifEnrolled) : user.role = .student := by
  unfold Membership.verdict at h
  split at h
  · cases h
  · split at h
    · cases h
    · split at h
      · split at h <;> cases h
      · split at h <;> cases h
      · assumption

theorem dropLoop_ne_joinEnrolled {c : Nat} {k : Sock} {cursor : Nat} {owed : List SessionId} {d : Nat}
    {x : SessionId} : Membership.dropLoop c k cursor owed ≠ some (.joinEnrolled d x) := by
  unfold Membership.dropLoop
  split
  · split <;> simp
  · simp

section Tasks

variable {r r' : Membership.State} {i j d : Nat} {x : SessionId}

/-- A task that waits for an enrolment waited for it before, or is the one that goes on. -/
theorem goto_joinEnrolled {t : Option Membership.Task} (htasks : r'.tasks = r.tasks)
    (h : (r'.goto i t).tasks.get j = some (.joinEnrolled d x)) :
    r.tasks.get j = some (.joinEnrolled d x) ∨ t = some (.joinEnrolled d x) := by
  rw [Membership.State.goto, Pool.get_put, htasks] at h
  rcases Slots.put_eq_some h with ⟨-, h⟩ | ⟨-, h⟩
  · exact .inr h
  · exact .inl h

theorem goto_other {t : Option Membership.Task} (htasks : r'.tasks = r.tasks)
    (ht : t ≠ some (.joinEnrolled d x)) (h : (r'.goto i t).tasks.get j = some (.joinEnrolled d x)) :
    r.tasks.get j = some (.joinEnrolled d x) :=
  (goto_joinEnrolled htasks h).resolve_right ht

/-- A join waits for the enrolment of a student only. -/
theorem onSession_tasks {c : Nat} {k : Sock} {sessionId : SessionId} {teach : Bool} {row : Option LiveSession}
    (h : (Membership.onSession r i c k sessionId teach row).tasks.get j = some (.joinEnrolled d x)) :
    r.tasks.get j = some (.joinEnrolled d x) ∨ (d = c ∧ k.user.role = .student) := by
  cases row with
  | none => exact .inl (goto_other rfl (by simp) h)
  | some session =>
    unfold Membership.onSession at h
    by_cases hended : session.status = .ended
    · simp only [hended, ite_true] at h
      exact .inl (goto_other rfl (by simp) h)
    · simp only [hended, ite_false] at h
      cases hv : Membership.verdict k.user sessionId session with
      | refuse =>
        rw [hv] at h
        exact .inl (goto_other rfl (by simp) h)
      | enter =>
        rw [hv] at h
        exact .inl (goto_other rfl (by split <;> simp) h)
      | ifEnrolled =>
        rw [hv] at h
        rcases goto_joinEnrolled rfl h with h | h
        · exact .inl h
        · cases h
          exact .inr ⟨rfl, verdict_ifEnrolled hv⟩

theorem resume_tasks {k : Sock} {t : Membership.Task} (hstep : Membership.resume r i k t = some r')
    (h : r'.tasks.get j = some (.joinEnrolled d x)) : r.tasks.get j = some (.joinEnrolled d x) := by
  cases t <;> simp only [Membership.resume, Option.some.injEq, reduceCtorEq] at hstep <;> subst hstep <;>
    refine goto_other rfl ?_ h
  case joinPresence => simp
  case leaveFetch => split <;> simp
  case leaveRemove => simp
  case dropFetch =>
    split
    · exact dropLoop_ne_joinEnrolled
    · simp
  case dropRemove => simp
  case dropNext => exact dropLoop_ne_joinEnrolled

theorem step_tasks {e : Membership.Event} (hstep : Membership.step r e = some r')
    (h : r'.tasks.get j = some (.joinEnrolled d x)) :
    r.tasks.get j = some (.joinEnrolled d x) ∨ ∃ k, r.sockets.get d = some k ∧ k.user.role = .student := by
  cases e with
  | connect c user =>
    unfold Membership.step at hstep
    simp only [Option.ite_none_right_eq_some, Option.some.injEq] at hstep
    obtain ⟨-, rfl⟩ := hstep
    exact .inl h
  | join i c sessionId teach =>
    unfold Membership.step at hstep
    simp only [Option.ite_none_right_eq_some, Option.some.injEq] at hstep
    obtain ⟨-, rfl⟩ := hstep
    exact .inl (goto_other rfl (by simp) h)
  | leave i c sessionId =>
    unfold Membership.step at hstep
    simp only [Option.ite_none_right_eq_some, Option.map_eq_some_iff] at hstep
    obtain ⟨-, k, -, rfl⟩ := hstep
    unfold Membership.leave at h
    split at h
    · exact .inl h
    · exact .inl (goto_other rfl (by split <;> simp) h)
  | disconnect i c =>
    unfold Membership.step at hstep
    simp only [Option.ite_none_right_eq_some, Option.map_eq_some_iff] at hstep
    obtain ⟨-, k, -, rfl⟩ := hstep
    exact .inl (goto_other rfl dropLoop_ne_joinEnrolled h)
  | authReady i permitted =>
    unfold Membership.step at hstep
    dsimp only at hstep
    split at hstep
    · cases hstep
      exact .inl (goto_other rfl (by split <;> simp) h)
    · cases hstep
  | session i row =>
    unfold Membership.step at hstep
    dsimp only at hstep
    split at hstep
    · obtain ⟨k, hk, rfl⟩ := Option.map_eq_some_iff.1 hstep
      rcases onSession_tasks h with h | ⟨rfl, hrole⟩
      · exact .inl h
      · exact .inr ⟨k, hk, hrole⟩
    · cases hstep
  | enrolled i found =>
    unfold Membership.step at hstep
    dsimp only at hstep
    split at hstep
    · obtain ⟨k, hk, rfl⟩ := Option.map_eq_some_iff.1 hstep
      cases found with
      | false => exact .inl (goto_other rfl (by simp) h)
      | true => exact .inl (goto_other rfl (by simp) h)
    · cases hstep
  | resume i =>
    unfold Membership.step at hstep
    simp only [Option.bind_eq_some_iff] at hstep
    obtain ⟨t, -, k, -, hstep⟩ := hstep
    exact .inl (resume_tasks hstep h)

end Tasks

/-! ## The invariant -/

structure Inv (s : State) : Prop where
  staff : StaffPresent s
  students : ∀ i c sessionId, s.room.tasks.get i = some (.joinEnrolled c sessionId) →
    ∃ k, s.room.sockets.get c = some k ∧ k.user.role = .student

theorem inv_init : Inv init where
  staff := by
    intro c k sessionId hk
    simp [init, Membership.init] at hk
  students := by
    intro i c sessionId hi
    simp [init, Membership.init] at hi

section Admission

variable {admitted : List (Nat × SessionId × LiveSession)} {c : Nat} {sessionId : SessionId} {session : LiveSession}

theorem lastAdmitted_self : lastAdmitted ((c, sessionId, session) :: admitted) c sessionId = some session := by
  simp [lastAdmitted]

theorem lastAdmitted_other {d : Nat} {x : SessionId} (h : ¬(d = c ∧ x = sessionId)) :
    lastAdmitted ((c, sessionId, session) :: admitted) d x = lastAdmitted admitted d x := by
  unfold lastAdmitted
  rw [List.find?_cons_of_neg]
  simp only [Bool.and_eq_true, beq_iff_eq]
  rintro ⟨rfl, rfl⟩
  exact h ⟨rfl, rfl⟩

/-- An admission to one session leaves the presence of others as it was. -/
theorem Present.cons {d : Nat} {k : Sock} {x : SessionId} (h : Present admitted d k x)
    (hne : ¬(d = c ∧ x = sessionId)) : Present ((c, sessionId, session) :: admitted) d k x where
  connected := h.connected
  joined := h.joined
  person := h.person
  staff := by
    rw [lastAdmitted_other hne]
    exact h.staff

/-- Who is let in on the session row alone, and is not a recorder, owns the session. -/
theorem owns_of_verdict {user : JwtPayload} (h : Membership.verdict user sessionId session = .enter)
    (hperson : user.recorder = none) : owns user session = true := by
  unfold Membership.verdict Membership.isRecorder at h
  unfold owns
  simp only [hperson, Option.isSome_none, Option.any_none, Bool.false_and, Bool.false_eq_true, ite_false] at h
  cases hrole : user.role with
  | instructor =>
    rw [hrole] at h
    by_contra hne
    simp only [hne, ite_false, reduceCtorEq] at h
  | orgAdmin =>
    rw [hrole] at h
    by_contra hne
    simp only [hne, ite_false, reduceCtorEq] at h
  | student =>
    rw [hrole] at h
    cases h

theorem Present.not_student {k : Sock} (h : Present admitted c k sessionId) : k.user.role ≠ .student := by
  obtain ⟨session, -, howns⟩ := h.staff
  intro hrole
  unfold owns at howns
  rw [hrole] at howns
  cases howns

end Admission

theorem admits_spec {r : Membership.State} {i c : Nat} {k : Sock} {sessionId : SessionId} {session : LiveSession}
    (hk : r.sockets.get c = some k)
    (h : admits r (.session i (some session)) = some (c, sessionId, session)) :
    Membership.verdict k.user sessionId session = .enter := by
  unfold admits at h
  dsimp only at h
  split at h
  · obtain ⟨k', hk', h⟩ := Option.bind_eq_some_iff.1 h
    obtain ⟨⟨-, hv⟩, h⟩ := Option.ite_none_right_eq_some.1 h
    cases h
    rw [hk] at hk'
    cases hk'
    exact hv
  · cases h

/-- One socket changes; the others keep their presence. -/
theorem StaffPresent.put {s : State} (h : StaffPresent s) {r : Membership.State} {c : Nat} {k : Sock}
    {admitted : List (Nat × SessionId × LiveSession)}
    (hr : r.sockets = s.room.sockets.put c (some k))
    (hothers : ∀ d k' x, d ≠ c → Present s.admitted d k' x → Present admitted d k' x)
    (hself : ∀ x ∈ k.staffRooms, Present admitted c k x) : StaffPresent ⟨r, admitted⟩ := by
  intro d k' x hk' hx
  dsimp only at hk'
  rw [hr] at hk'
  rcases Pool.get_put_cases hk' with ⟨rfl, heq⟩ | ⟨hne, hk'⟩
  · cases heq
    exact hself x hx
  · exact hothers d k' x hne (h d k' x hk' hx)

namespace Inv

variable {s : State}

/-- An admission: the socket enters the staff room of a session it owns, or is a student's. -/
theorem admission (h : Inv s) {c : Nat} {k : Sock} {sessionId : SessionId} {session : LiveSession} {number : Nat}
    {teaching shadow : Bool} (hk : s.room.sockets.get c = some k)
    (hverdict : Membership.verdict k.user sessionId session = .enter)
    (hsound : k.user.role = .student ∨ k.connected = true ∧ k.user.recorder = none) :
    ∀ x ∈ (Sock.enter { k with teaching := teaching, shadow := shadow } number sessionId shadow).staffRooms,
      Present ((c, sessionId, session) :: s.admitted) c
        (Sock.enter { k with teaching := teaching, shadow := shadow } number sessionId shadow) x := by
  intro x hx
  unfold Sock.enter at hx ⊢
  by_cases hrole : k.user.role = .student
  · rw [if_pos hrole] at hx
    exact absurd hrole (h.staff c k x hk hx).not_student
  · obtain ⟨hconn, hperson⟩ := hsound.resolve_left hrole
    rw [if_neg hrole] at hx
    rcases List.mem_append.1 hx with hx | hx
    · obtain ⟨hx, hne⟩ := List.mem_filter.1 hx
      have hne : x ≠ sessionId := by simpa using hne
      have hp : Present ((c, sessionId, session) :: s.admitted) c k x :=
        (h.staff c k x hk hx).cons (by rintro ⟨-, heq⟩; exact hne heq)
      exact ⟨hp.connected, List.mem_append_left _ (List.mem_filter.2 ⟨hp.joined, by simpa using hne⟩),
        hp.person, hp.staff⟩
    · obtain rfl := List.mem_singleton.1 hx
      exact ⟨hconn, List.mem_append_right _ (List.mem_singleton_self _), hperson,
        session, lastAdmitted_self, owns_of_verdict hverdict hperson⟩

theorem touched (h : Inv s) {e : Membership.Event} {r : Membership.State} {c : Nat} {k : Sock}
    (hsound : sound s (.room e) = true) (ht : Touched s.room e c k)
    (hr : r.sockets = s.room.sockets.put c (some k)) :
    StaffPresent ⟨r, (admits s.room e).toList ++ s.admitted⟩ := by
  cases ht with
  | connected => exact h.staff.put hr (fun _ _ _ _ hp => hp) fun x hx => absurd hx List.not_mem_nil
  | lost => exact h.staff.put hr (fun _ _ _ _ hp => hp) fun x hx => absurd hx List.not_mem_nil
  | @left i _ k₀ sessionId hk hperson =>
    refine h.staff.put hr (fun _ _ _ _ hp => hp) fun x hx => ?_
    have hin : x ∈ k₀.staffRooms := (List.mem_filter.1 hx).1
    have hp := h.staff c k₀ x hk hin
    have hne : x ≠ sessionId := by
      rintro rfl
      simp only [sound, hk, Option.all_some, hperson, Option.isSome_none, Bool.false_or, Bool.not_eq_true',
        List.contains_eq_mem, decide_eq_false_iff_not] at hsound
      exact hsound hin
    exact ⟨hp.connected, List.mem_filter.2 ⟨hp.joined, by simpa using hne⟩, hp.person, hp.staff⟩
  | @flagged _ _ k₀ _ _ hk hadmits =>
    rw [hadmits]
    refine h.staff.put hr (fun _ _ _ _ hp => hp) fun x hx => ?_
    have hp := h.staff c k₀ x hk hx
    exact ⟨hp.connected, hp.joined, hp.person, hp.staff⟩
  | @admitted i _ k₀ sessionId session number teaching shadow hk hadmits =>
    rw [hadmits]
    refine h.staff.put hr (fun _ _ _ hne hp => hp.cons (by rintro ⟨heq, -⟩; exact hne heq)) ?_
    refine h.admission hk (admits_spec hk hadmits) ?_
    simpa [sound, hadmits, hk] using hsound
  | @enrolled i _ k₀ sessionId number hk hi =>
    refine h.staff.put hr (fun _ _ _ _ hp => hp) fun x hx => ?_
    obtain ⟨k', hk', hrole⟩ := h.students i c sessionId hi
    rw [hk] at hk'
    cases hk'
    unfold Sock.enter at hx
    rw [if_pos hrole] at hx
    exact absurd hrole (h.staff c k₀ x hk hx).not_student

end Inv

/-- A socket stays, with the user it was opened for. -/
theorem step_user {r r' : Membership.State} {e : Membership.Event} (h : Membership.step r e = some r') {d : Nat}
    {k : Sock} (hk : r.sockets.get d = some k) : ∃ k', r'.sockets.get d = some k' ∧ k'.user = k.user := by
  rcases step_sockets h with ⟨heq, -⟩ | ⟨c, k', heq, ht⟩
  · exact ⟨k, by rw [heq, hk], rfl⟩
  · by_cases hd : d = c
    · subst hd
      refine ⟨k', by rw [heq, Pool.get_put_self], ?_⟩
      cases ht with
      | connected hnone =>
        rw [hk] at hnone
        cases hnone
      | left hk' => rw [hk] at hk'; cases hk'; rfl
      | lost hk' => rw [hk] at hk'; cases hk'; rfl
      | flagged hk' => rw [hk] at hk'; cases hk'; rfl
      | admitted hk' => rw [hk] at hk'; cases hk'; rfl
      | enrolled hk' => rw [hk] at hk'; cases hk'; rfl
    · exact ⟨k, by rw [heq, Pool.get_put_of_ne hd, hk], rfl⟩

theorem Inv.step {s s' : State} {e : Event} (h : Inv s) (hsound : sound s e = true)
    (hstep : Staff.step s e = some s') : Inv s' := by
  cases e with
  | room e =>
    obtain ⟨r, hr, rfl⟩ := Option.map_eq_some_iff.1 hstep
    constructor
    · rcases step_sockets hr with ⟨heq, hadmits⟩ | ⟨c, k, heq, ht⟩
      · rw [hadmits]
        intro c k x hk hx
        dsimp only at hk
        rw [heq] at hk
        exact h.staff c k x hk hx
      · exact h.touched hsound ht heq
    · intro i c sessionId hi
      have hold : ∃ k, s.room.sockets.get c = some k ∧ k.user.role = .student := by
        rcases step_tasks hr hi with hi | hk
        · exact h.students i c sessionId hi
        · exact hk
      obtain ⟨k, hk, hrole⟩ := hold
      obtain ⟨k', hk', huser⟩ := step_user hr hk
      exact ⟨k', hk', by rw [huser, hrole]⟩
  | evict i c sessionId =>
    unfold Staff.step at hstep
    simp only [Option.ite_none_right_eq_some, Option.map_eq_some_iff, Option.filter_eq_some_iff] at hstep
    obtain ⟨-, k, ⟨hk, -⟩, rfl⟩ := hstep
    constructor
    · exact h.staff.put rfl (fun _ _ _ _ hp => hp) fun x hx => absurd hx List.not_mem_nil
    · intro j d x hj
      obtain ⟨k', hk', hrole⟩ := h.students j d x (goto_other rfl dropLoop_ne_joinEnrolled hj)
      by_cases hd : d = c
      · subst hd
        rw [hk] at hk'
        cases hk'
        refine ⟨Sock.drop { k with rooms := k.rooms.filter (· != sessionId) }, ?_, hrole⟩
        rw [evict, Membership.disconnect, Membership.State.goto, Membership.State.setSock, Pool.get_put,
          Slots.put_self]
      · refine ⟨k', ?_, hrole⟩
        rw [evict, Membership.disconnect, Membership.State.goto, Membership.State.setSock, Pool.get_put,
          Slots.put_of_ne _ _ hd, hk']

/-! ## The theorem -/

theorem mem_emitToSessionStaff {r : Membership.State} {sessionId : SessionId} {c : Nat}
    (h : c ∈ emitToSessionStaff r sessionId) :
    ∃ k, r.sockets.get c = some k ∧ sessionId ∈ k.staffRooms := by
  obtain ⟨⟨d, k⟩, hmem, rfl⟩ := List.mem_map.1 h
  obtain ⟨hmem, hin⟩ := List.mem_filter.1 hmem
  simp only [Bool.and_eq_true, List.contains_eq_mem, decide_eq_true_eq] at hin
  exact ⟨k, Pool.get_of_mem hmem, hin.2⟩

/-- In every run that meets the condition, who is in a staff room is present in that session as
staff, and so is who receives a push to it. -/
theorem staff_present (es : List Event) (s : State) (hsound : Meets step (fun s e => sound s e = true) init es)
    (h : run step init es = some s) :
    StaffPresent s ∧ ∀ sessionId, ∀ c ∈ emitToSessionStaff s.room sessionId,
      ∃ k, s.room.sockets.get c = some k ∧ Present s.admitted c k sessionId := by
  have hinv : Inv s := run_inv (fun _ _ _ h hs hstep => h.step hs hstep) inv_init hsound h
  refine ⟨hinv.staff, fun sessionId c hc => ?_⟩
  obtain ⟨k, hk, hx⟩ := mem_emitToSessionStaff hc
  exact ⟨k, hk, hinv.staff c k sessionId hk hx⟩

namespace Example

def instructor : JwtPayload := ⟨"tariq", .instructor, "Tariq", none, none, none⟩

def student : JwtPayload := ⟨"amina", .student, "Amina", none, none, none⟩

/-- The token of the instructor's recording of session `s`. -/
def recorder : JwtPayload := { instructor with recorder := some ⟨"s", "r"⟩ }

def session : LiveSession := ⟨"s", .live, ⟨"c", some "tariq", none, none⟩⟩

/-- Socket `c` joins session `s` in task `i`, up to the answer to the session row. -/
def join (i c : Nat) : List Event :=
  [.room (.join i c "s" false), .room (.authReady i true), .room (.session i (some session))]

/-- The instructor and a student join; the student leaves, and the instructor's connection is lost
and made again. -/
def lesson : List Event :=
  [.room (.connect 0 instructor)] ++ join 0 0 ++ [.room (.connect 1 student)] ++ join 1 1 ++
    [.room (.enrolled 1 true), .room (.leave 2 1 "s"), .room (.disconnect 3 0), .room (.connect 4 instructor)] ++
    join 4 4 ++ [.evict 5 1 "s"]

def left : List Event := [.room (.connect 0 instructor)] ++ join 0 0 ++ [.room (.leave 1 0 "s")]

def filmed : List Event := [.room (.connect 0 recorder)] ++ join 0 0

/-- The connection is lost while the session row is read. -/
def late : List Event :=
  [.room (.connect 0 instructor), .room (.join 0 0 "s" false), .room (.authReady 0 true),
    .room (.disconnect 1 0), .room (.session 0 (some session))]

/-- What is left of socket `0`: whether it gets the pushes to the staff of `s`, whether it is in the
staff room, in the room, connected and a recorder's. -/
def seen (s : State) : (Bool × Bool) × Bool × Bool × Bool :=
  (((emitToSessionStaff s.room "s").contains 0, (s.room.sockets.get 0).any fun k => k.staffRooms.contains "s"),
    (s.room.sockets.get 0).any fun k => k.rooms.contains "s",
    (s.room.sockets.get 0).any (·.connected),
    (s.room.sockets.get 0).any (·.user.recorder.isSome))

end Example

open Example in
theorem lesson_present :
    (run step init lesson).map (fun s => emitToSessionStaff s.room "s") = some [4] ∧
    ∀ s, run step init lesson = some s → StaffPresent s :=
  ⟨by decide, fun s h => (staff_present lesson s (by decide) h).1⟩

open Example in
theorem staff_absent :
    (run step init left).map seen = some ((true, true), false, true, false) ∧
    (run step init filmed).map seen = some ((true, true), true, true, true) ∧
    (run step init late).map seen = some ((false, true), true, false, false) ∧
    ¬ ∀ (es : List Event) (s : State), run step init es = some s → StaffPresent s := by
  refine ⟨by decide, by decide, by decide, fun h => ?_⟩
  have hrun : (run step init left).map (fun s => (s.room.sockets.get 0).map fun k => (k.staffRooms, k.rooms)) =
      some (some (["s"], [])) := by
    decide
  obtain ⟨s, hs, heq⟩ := Option.map_eq_some_iff.1 hrun
  obtain ⟨k, hk, heq⟩ := Option.map_eq_some_iff.1 heq
  simp only [Prod.mk.injEq] at heq
  have hp := h left s hs 0 k "s" hk (by rw [heq.1]; exact List.mem_singleton_self _)
  have hjoined := hp.joined
  rw [heq.2] at hjoined
  exact List.not_mem_nil hjoined

end Livetich.Room.Staff
