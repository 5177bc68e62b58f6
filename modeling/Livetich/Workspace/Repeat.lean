/-
Starting one enrolment's workspace again and again. The claim guards only the way in: the number, the
final record and the error are written by id, by attempts that may have been overtaken since. A run
of starts is safe exactly when none of these three writes undoes what another attempt has written.
-/
import Livetich.Workspace.Provision

namespace Livetich.Workspace

open Livetich.Lib TransSys

/-! ## What is read of one enrolment -/

def State.no (s : State) (e : EnrollmentId) : Option Nat := (s.rows.enrollments.get e).bind (·.no)

def State.status (s : State) (e : EnrollmentId) : Option CodingWorkspaceStatus :=
  (s.rows.workspace e).map (·.status)

def State.courseBaseSha (s : State) (e : EnrollmentId) : Option String :=
  (s.rows.workspace e).bind (·.courseBaseSha)

/-- The repositories made for an enrolment. -/
def State.madeFor (s : State) (e : EnrollmentId) : List Handed :=
  s.handed.filter fun h => h.kind == .created && h.enrollmentId == e

/-- Starts, and what happens to them. -/
def Event.isStart : Event → Bool
  | .start _ _ _ | .resume _ _ | .crash _ | .tick _ => true
  | _ => false

/-! ## The condition -/

/-- The next write of an attempt undoes nothing: it sets a number where there is none (or that very
number, or one that is refused as taken), records a base revision or finds none on record, and reports
an error on a workspace that is not active. -/
def notOvertaken (s : State) (e : EnrollmentId) : Attempt → Bool
  | .running ctx (.numbering _ next) =>
    ctx.enrollmentId != e || s.no e == none || s.no e == some next ||
      (s.rows.enrollments.get e).any fun row => s.rows.noTaken e row.courseId next
  | .running ctx (.saving _ _ courseBaseSha) =>
    ctx.enrollmentId != e || courseBaseSha.isSome || s.courseBaseSha e == none
  | .running ctx (.failing _) => ctx.enrollmentId != e || s.status e != some .active
  | _ => true

def keepsUp (e : EnrollmentId) (s : State) : Event → Bool
  | .resume i _ => (s.attempts.get i).all (notOvertaken s e)
  | _ => true

/-- What stays from one state to a later one. -/
structure Stays (e : EnrollmentId) (s t : State) : Prop where
  no : ∀ n, s.no e = some n → t.no e = some n
  active : s.status e = some .active → t.status e = some .active
  courseBaseSha : (s.courseBaseSha e).isSome → (t.courseBaseSha e).isSome

/-! ## What a write leaves -/

theorem status_eq (s : State) (e : EnrollmentId) :
    s.status e = (s.rows.enrollments.get e).bind fun row => row.workspace.map (·.status) := by
  unfold State.status Rows.workspace
  rw [Option.map_bind]
  rfl

theorem courseBaseSha_eq (s : State) (e : EnrollmentId) :
    s.courseBaseSha e = (s.rows.enrollments.get e).bind fun row => row.workspace.bind (·.courseBaseSha) := by
  unfold State.courseBaseSha Rows.workspace
  rw [Option.bind_assoc]

theorem Stays.refl (e : EnrollmentId) (s : State) : Stays e s s := ⟨fun _ => id, id, id⟩

theorem Stays.trans {e : EnrollmentId} {s t u : State} (h : Stays e s t) (h' : Stays e t u) : Stays e s u :=
  ⟨fun n hn => h'.no n (h.no n hn), fun ha => h'.active (h.active ha), fun hb => h'.courseBaseSha (h.courseBaseSha hb)⟩

/-- What is read of an enrolment depends on its row alone. -/
theorem Stays.of_row {e : EnrollmentId} {s t : State}
    (h : t.rows.enrollments.get e = s.rows.enrollments.get e) : Stays e s t := by
  have hno : t.no e = s.no e := by unfold State.no; rw [h]
  have hstatus : t.status e = s.status e := by rw [status_eq, status_eq, h]
  have hbase : t.courseBaseSha e = s.courseBaseSha e := by rw [courseBaseSha_eq, courseBaseSha_eq, h]
  exact ⟨fun n hn => hno.trans hn, fun ha => hstatus.trans ha, fun hb => by rw [hbase]; exact hb⟩

/-- An update of the row that keeps what is to stay. -/
theorem Stays.of_update {e : EnrollmentId} {s t : State} {f : Enrollment → Enrollment}
    (h : t.rows.enrollments.get e = (s.rows.enrollments.get e).map f)
    (hno : ∀ row n, s.rows.enrollments.get e = some row → row.no = some n → (f row).no = some n)
    (hactive : ∀ row w, s.rows.enrollments.get e = some row → row.workspace = some w → w.status = .active →
      (f row).workspace.map (·.status) = some .active)
    (hbase : ∀ row w, s.rows.enrollments.get e = some row → row.workspace = some w → w.courseBaseSha.isSome →
      ((f row).workspace.bind (·.courseBaseSha)).isSome) : Stays e s t := by
  refine ⟨fun n hn => ?_, fun ha => ?_, fun hb => ?_⟩
  · obtain ⟨row, hrow, hn⟩ := Option.bind_eq_some_iff.1 hn
    unfold State.no
    rw [h, hrow]
    exact hno row n hrow hn
  · rw [status_eq] at ha ⊢
    obtain ⟨row, hrow, ha⟩ := Option.bind_eq_some_iff.1 ha
    obtain ⟨w, hw, ha⟩ := Option.map_eq_some_iff.1 ha
    rw [h, hrow]
    exact hactive row w hrow hw ha
  · rw [courseBaseSha_eq] at hb ⊢
    obtain ⟨sha, hb⟩ := Option.isSome_iff_exists.1 hb
    obtain ⟨row, hrow, hb⟩ := Option.bind_eq_some_iff.1 hb
    obtain ⟨w, hw, hb⟩ := Option.bind_eq_some_iff.1 hb
    rw [h, hrow]
    exact hbase row w hrow hw (by rw [hb]; rfl)

/-- A write that is not overtaken undoes nothing. -/
theorem write_stays {s : State} {ctx : WorkspaceContext} {reply : Reply} {stage : Stage} {w : Write} {e : EnrollmentId}
    (hfrom : w.From s ctx reply stage) (hok : notOvertaken s e (.running ctx stage) = true) :
    Stays e s (s.write w) := by
  by_cases htarget : w.target = some e
  swap
  · exact Stays.of_row (get_write_of_ne htarget)
  have hctx : ctx.enrollmentId = e := (hfrom.target htarget).symm
  cases w with
  | nothing => cases htarget
  | created repo entry => cases htarget
  | granted entry => cases htarget
  | upserted id =>
    cases htarget
    refine Stays.of_update ((get_updateEnrollment _ _ _ _).trans (if_pos rfl)) ?_ ?_ ?_
    · exact fun row n _ hn => hn
    · intro row w _ hw hactive
      simp [hw, hactive]
    · intro row w _ hw hbase
      simpa [hw] using hbase
  | claimed id =>
    cases htarget
    refine Stays.of_update ((get_updateEnrollment _ _ _ _).trans (if_pos rfl)) ?_ ?_ ?_
    · exact fun row n _ hn => hn
    · -- An active workspace is never claimed.
      intro row w hrow hw hactive
      have hclaim := hfrom.2.2
      unfold Rows.workspace at hclaim
      rw [hrow] at hclaim
      simp [hw, claimable, hactive] at hclaim
    · intro row w _ hw hbase
      simpa [Enrollment.updateWorkspace, hw] using hbase
  | numbered id no =>
    cases htarget
    obtain ⟨-, ⟨attempt, rfl⟩, row', hrow', htaken⟩ := hfrom
    refine Stays.of_update ((get_updateEnrollment _ _ _ _).trans (if_pos rfl)) ?_ ?_ ?_
    · intro row n hrow hn
      have hno : s.no e = some n := by unfold State.no; rw [hrow]; exact hn
      rw [hrow] at hrow'
      cases hrow'
      have hnext : n = no := by simpa [notOvertaken, hctx, hno, hrow, htaken] using hok
      rw [hnext]
    · intro row w _ hw hactive
      simp [hw, hactive]
    · intro row w _ hw hbase
      simpa [hw] using hbase
  | activated id repo branch base entry =>
    cases htarget
    obtain ⟨-, no, rfl, -⟩ := hfrom
    refine Stays.of_update ((get_updateEnrollment _ _ _ _).trans (if_pos rfl)) ?_ ?_ ?_
    · exact fun row n _ hn => hn
    · intro row w _ hw _
      simp [Enrollment.updateWorkspace, hw]
    · intro row w hrow hw hbase
      have hsha : s.courseBaseSha e = w.courseBaseSha := by
        rw [courseBaseSha_eq, hrow]
        simp [hw]
      have hnew : base.isSome = true := by
        cases hb : w.courseBaseSha with
        | none =>
          rw [hb] at hbase
          cases hbase
        | some sha => simpa [notOvertaken, hctx, hsha, hb] using hok
      simpa [Enrollment.updateWorkspace, hw] using hnew
  | failed id reason =>
    cases htarget
    obtain ⟨-, rfl⟩ := hfrom
    refine Stays.of_update ((get_updateEnrollment _ _ _ _).trans (if_pos rfl)) ?_ ?_ ?_
    · exact fun row n _ hn => hn
    · intro row w hrow hw hactive
      have hstatus : s.status e = some .active := by
        rw [status_eq, hrow]
        simp [hw, hactive]
      simp [notOvertaken, hctx, hstatus] at hok
    · intro row w _ hw hbase
      simpa [Enrollment.updateWorkspace, hw] using hbase

/-! ## Steps of starts -/

/-- A step of starts and the states around it: the rows stay, or an attempt writes. -/
inductive Moved (unicode : Unicode) (s : State) : Event → State → Prop
  | same {ev : Event} {s' : State} (rows : s'.rows = s.rows) (repos : s'.repos = s.repos)
      (handed : s'.handed = s.handed)
      (attempts : ∀ i a, s'.attempts.get i = some a → s.attempts.get i = some a ∨
        ∃ user e l, a = .connecting l ∧ loadEnrollment s.rows user e = .ok l) : Moved unicode s ev s'
  | connected {i : Nat} {l : LoadedEnrollment} {reply : Reply} {next : Next}
      (get : s.attempts.get i = some (.connecting l))
      (goes : ∀ a, next = .goes a → a = .running (l.context (s.rows.connectionOf l.course)) .upserting) :
      Moved unicode s (.resume i reply) (s.next i next)
  | wrote {i : Nat} {ctx : WorkspaceContext} {stage : Stage} {reply : Reply}
      (get : s.attempts.get i = some (.running ctx stage)) :
      Moved unicode s (.resume i reply)
        ((s.write (provisionStep unicode s ctx reply stage).1).next i (provisionStep unicode s ctx reply stage).2)

theorem step_moved {unicode : Unicode} {s s' : State} {ev : Event} (hstart : ev.isStart = true)
    (h : step unicode s ev = some s') : Moved unicode s ev s' := by
  cases ev with
  | start i user enrollmentId =>
    unfold step at h
    dsimp only at h
    split at h
    · cases h
    · cases hload : loadEnrollment s.rows user enrollmentId with
      | error err =>
        rw [hload] at h
        cases h
        exact .same rfl rfl rfl fun i a ha => .inl ha
      | ok l =>
        rw [hload] at h
        cases h
        refine .same rfl rfl rfl fun j a ha => ?_
        rcases Pool.get_put_cases ha with ⟨-, hl⟩ | ⟨-, ha⟩
        · cases hl
          exact .inr ⟨user, enrollmentId, l, rfl, hload⟩
        · exact .inl ha
  | resume i reply =>
    unfold step at h
    simp only [Option.map_eq_some_iff] at h
    obtain ⟨a, ha, rfl⟩ := h
    cases a with
    | connecting l =>
      refine Moved.connected ha fun a ha => ?_
      cases hanswer : (l.context (s.rows.connectionOf l.course)).answer with
      | some view =>
        unfold Attempt.step at ha
        simp only [hanswer] at ha
        cases ha
      | none =>
        unfold Attempt.step at ha
        simp only [hanswer] at ha
        cases ha
        rfl
    | running ctx stage => exact Moved.wrote ha
  | crash i =>
    unfold step at h
    simp only [Option.map_eq_some_iff] at h
    obtain ⟨a, -, rfl⟩ := h
    refine .same rfl rfl rfl fun j b hb => ?_
    rcases Pool.get_put_cases hb with ⟨-, hnone⟩ | ⟨-, hb⟩
    · cases hnone
    · exact .inl hb
  | tick ms =>
    cases h
    exact .same rfl rfl rfl fun i a ha => .inl ha
  | createCourse => cases hstart
  | createBatch => cases hstart
  | updateCourse => cases hstart
  | enroll => cases hstart
  | enrollStudent => cases hstart
  | redeemInvite => cases hstart
  | unenroll => cases hstart
  | configure => cases hstart

theorem Stays.next {e : EnrollmentId} {s t : State} (h : Stays e s t) (i : Nat) (n : Next) : Stays e s (t.next i n) :=
  h.trans (Stays.of_row (by rw [next_rows]))

/-- Nothing is undone by a step whose attempt was not overtaken. -/
theorem step_stays {unicode : Unicode} {s s' : State} {ev : Event} {e : EnrollmentId} (hstart : ev.isStart = true)
    (h : step unicode s ev = some s') (hok : keepsUp e s ev = true) : Stays e s s' := by
  cases step_moved hstart h with
  | same rows => exact Stays.of_row (by rw [rows])
  | connected get => exact Stays.of_row (by rw [next_rows])
  | wrote get =>
    refine Stays.next (write_stays (provisionStep_from unicode s _ _ _) ?_) _ _
    simpa [keepsUp, get] using hok

/-- An overtaken write that is made undoes something. -/
theorem step_undoes {unicode : Unicode} {s s' : State} {ev : Event} {e : EnrollmentId}
    (h : step unicode s ev = some s') (hbad : keepsUp e s ev = false) : ¬ Stays e s s' := by
  cases ev with
  | resume i reply =>
    unfold step at h
    simp only [Option.map_eq_some_iff] at h
    obtain ⟨a, ha, rfl⟩ := h
    simp only [keepsUp, ha, Option.all_some] at hbad
    cases a with
    | connecting l => cases hbad
    | running ctx stage =>
      cases stage with
      | numbering attempt next =>
        simp only [notOvertaken, Bool.or_eq_false_iff, bne_eq_false_iff_eq, beq_eq_false_iff_ne] at hbad
        obtain ⟨⟨⟨rfl, hset⟩, hdiffers⟩, htaken⟩ := hbad
        obtain ⟨n, hn⟩ := Option.ne_none_iff_exists'.1 hset
        obtain ⟨row, hrow, -⟩ := Option.bind_eq_some_iff.1 hn
        rw [hrow, Option.any_some] at htaken
        intro hstays
        have hafter := hstays.no n hn
        unfold Attempt.step at hafter
        simp only [provisionStep, hrow, htaken, Bool.false_eq_true, if_false] at hafter
        refine hdiffers (hn.trans ?_)
        rw [← hafter]
        show ((s.rows.updateEnrollment _ _).enrollments.get _).bind _ = _
        rw [get_updateEnrollment, if_pos rfl, hrow]
        rfl
      | saving no repo base =>
        simp only [notOvertaken, Bool.or_eq_false_iff, bne_eq_false_iff_eq, beq_eq_false_iff_ne] at hbad
        obtain ⟨⟨rfl, hnone⟩, hset⟩ := hbad
        obtain ⟨sha, hsha⟩ := Option.ne_none_iff_exists'.1 hset
        obtain ⟨w, hw, -⟩ := Option.bind_eq_some_iff.1 hsha
        obtain ⟨row, hrow, hroww⟩ := Option.bind_eq_some_iff.1 hw
        intro hstays
        have hafter := hstays.courseBaseSha (Option.isSome_iff_exists.2 ⟨sha, hsha⟩)
        rw [courseBaseSha_eq] at hafter
        unfold Attempt.step at hafter
        simp only [provisionStep, hw] at hafter
        rw [next_rows] at hafter
        simp only [State.write, get_updateEnrollment, if_pos, hrow, Option.map_some, Option.bind_some,
          Enrollment.updateWorkspace, hroww] at hafter
        rw [hafter] at hnone
        cases hnone
      | failing reason =>
        simp only [notOvertaken, Bool.or_eq_false_iff, bne_eq_false_iff_eq] at hbad
        obtain ⟨rfl, hactive⟩ := hbad
        obtain ⟨w, hw, -⟩ := Option.map_eq_some_iff.1 hactive
        obtain ⟨row, hrow, hroww⟩ := Option.bind_eq_some_iff.1 hw
        intro hstays
        have hafter := hstays.active hactive
        rw [status_eq] at hafter
        unfold Attempt.step at hafter
        simp only [provisionStep, hw] at hafter
        rw [next_rows] at hafter
        simp [State.write, get_updateEnrollment, hrow, Enrollment.updateWorkspace, hroww] at hafter
      | upserting => cases hbad
      | claiming => cases hbad
      | counting attempt => cases hbad
      | looking no name => cases hbad
      | heading no name => cases hbad
      | creating no name base => cases hbad
      | granting no repo base => cases hbad
  | _ => cases hbad

/-! ## One repository -/

/-- The codes of the course an enrolment is in and of its program, and the organization's login. -/
def Rows.key (rows : Rows) (e : EnrollmentId) : Option RepoKey :=
  (rows.owner e).bind fun o => (rows.course o.1).map fun course =>
    (((rows.connectionOf course).map (·.githubOrganizationLogin)).getD "",
      ((course.parentCourseId.bind rows.course).getD course).code, course.code)

theorem key_congr {rows rows' : Rows} {e : EnrollmentId} (hcourses : rows'.courses = rows.courses)
    (hconnections : rows'.connections = rows.connections) (howner : rows'.owner e = rows.owner e) :
    rows'.key e = rows.key e := by
  unfold Rows.key Rows.connectionOf Rows.course
  rw [hcourses, hconnections, howner]

/-- A context is loaded with the key of its enrolment, and with its number. -/
theorem context_key {rows : Rows} {user : UserId} {e : EnrollmentId} {l : LoadedEnrollment}
    (h : loadEnrollment rows user e = .ok l) :
    rows.key l.id = some (l.context (rows.connectionOf l.course)).key ∧
      (rows.enrollments.get l.id).bind (·.no) = l.enrollment.no := by
  obtain ⟨row, course, hrow, hcourse, -, rfl⟩ := loadEnrollment_ok h
  refine ⟨?_, by rw [hrow]; rfl⟩
  unfold Rows.key Rows.owner
  rw [hrow, Option.bind_some, Option.bind_some, hcourse, Option.map_some]
  unfold WorkspaceContext.key LoadedEnrollment.context
  cases course.parentCourseId.bind rows.course with
  | none => rfl
  | some p => rfl

/-- What an attempt in flight knows of its enrolment is so. -/
def Attempt.Knows (unicode : Unicode) (s : State) : Attempt → Prop
  | .connecting l => s.rows.key l.id = some (l.context (s.rows.connectionOf l.course)).key ∧
      ∀ n, l.enrollment.no = some n → s.no l.id = some n
  | .running ctx stage => s.rows.key ctx.enrollmentId = some ctx.key ∧
      (∀ n, stage.number ctx = some n → s.no ctx.enrollmentId = some n) ∧ stage.Named unicode ctx

/-- What was made for an enrolment bears its number and is there. -/
structure Made (unicode : Unicode) (e : EnrollmentId) (s : State) (h : Handed) : Prop where
  key : s.rows.key e = some h.key
  no : s.no e = some h.no
  name : repositoryName unicode h.programCode h.cohortCode (some h.no) = .ok h.name
  there : (s.repo h.owner h.name).isSome

structure Steady (unicode : Unicode) (e : EnrollmentId) (s : State) : Prop where
  attempts : ∀ i a, s.attempts.get i = some a → a.enrollmentId = e → a.Knows unicode s
  made : ∀ h ∈ s.madeFor e, Made unicode e s h
  once : (s.madeFor e).length ≤ 1

/-- What an attempt knows stays so. -/
theorem Attempt.Knows.mono {unicode : Unicode} {s t : State} {a : Attempt} (h : a.Knows unicode s)
    (hkey : t.rows.key a.enrollmentId = s.rows.key a.enrollmentId) (hcon : t.rows.connections = s.rows.connections)
    (hstays : Stays a.enrollmentId s t) : a.Knows unicode t := by
  cases a with
  | connecting l =>
    have hconnection : t.rows.connectionOf l.course = s.rows.connectionOf l.course := by
      unfold Rows.connectionOf
      rw [hcon]
    refine ⟨?_, fun n hn => hstays.no n (h.2 n hn)⟩
    rw [hconnection]
    exact hkey.trans h.1
  | running ctx stage => exact ⟨hkey.trans h.1, fun n hn => hstays.no n (h.2.1 n hn), h.2.2⟩

theorem Made.mono {unicode : Unicode} {e : EnrollmentId} {s t : State} {h : Handed} (hm : Made unicode e s h)
    (hkey : t.rows.key e = s.rows.key e) (hstays : Stays e s t)
    (hrepos : (s.repo h.owner h.name).isSome → (t.repo h.owner h.name).isSome) : Made unicode e t h :=
  ⟨hkey.trans hm.key, hstays.no _ hm.no, hm.name, hrepos hm.there⟩

theorem write_key (s : State) (w : Write) (e : EnrollmentId) : (s.write w).rows.key e = s.rows.key e :=
  key_congr (write_courses s w) (write_connections s w) (write_owner s w e)

theorem next_madeFor (s : State) (i : Nat) (n : Next) (e : EnrollmentId) : (s.next i n).madeFor e = s.madeFor e := by
  unfold State.madeFor
  rw [next_handed]

/-- A write makes no repository for an enrolment, or it makes the one it is about. -/
theorem write_madeFor {s : State} {ctx : WorkspaceContext} {reply : Reply} {stage : Stage} {w : Write}
    (h : w.From s ctx reply stage) (e : EnrollmentId) :
    (s.write w).madeFor e = s.madeFor e ∨
      ∃ repo no base, ctx.enrollmentId = e ∧ stage = .creating no repo.name base ∧
        s.repo ctx.connectionLogin repo.name = none ∧ repo.owner = ctx.connectionLogin ∧
        w = .created repo (handedFor ctx .created no repo.name) ∧
        (s.write w).madeFor e = handedFor ctx .created no repo.name :: s.madeFor e := by
  cases w with
  | created repo entry =>
    obtain ⟨no, name, base, hstage, hnone, howner, rfl, rfl⟩ := h
    by_cases he : ctx.enrollmentId = e
    · refine .inr ⟨repo, no, base, he, hstage, hnone, howner, rfl, ?_⟩
      simp [State.madeFor, State.write, handedFor, he]
    · refine .inl ?_
      simp [State.madeFor, State.write, handedFor, he]
  | granted entry =>
    obtain ⟨no, repo, base, -, -, rfl⟩ := h
    exact .inl (by simp [State.madeFor, State.write, handedFor])
  | activated id repo branch base entry =>
    obtain ⟨-, no, -, rfl⟩ := h
    exact .inl (by simp [State.madeFor, State.write, handedFor])
  | nothing => exact .inl rfl
  | upserted id => exact .inl rfl
  | claimed id => exact .inl rfl
  | numbered id no => exact .inl rfl
  | failed id reason => exact .inl rfl

theorem numbered_no {s : State} {ctx : WorkspaceContext} {reply : Reply} {stage : Stage} {id : EnrollmentId} {no : Nat}
    (h : (Write.numbered id no).From s ctx reply stage) : (s.write (.numbered id no)).no id = some no := by
  obtain ⟨-, -, row, hrow, -⟩ := h
  show ((s.rows.updateEnrollment _ _).enrollments.get _).bind _ = _
  rw [get_updateEnrollment, if_pos rfl, hrow]
  rfl

/-- An attempt that writes knows of its enrolment what it goes on with. -/
theorem wrote_knows {unicode : Unicode} {s : State} {ctx : WorkspaceContext} {reply : Reply} {stage : Stage}
    {a : Attempt} (hknows : (Attempt.running ctx stage).Knows unicode s)
    (hstays : Stays ctx.enrollmentId s (s.write (provisionStep unicode s ctx reply stage).1))
    (ha : (provisionStep unicode s ctx reply stage).2 = .goes a) :
    a.Knows unicode (s.write (provisionStep unicode s ctx reply stage).1) := by
  obtain ⟨after, rfl, hgoes⟩ := provisionStep_goes ha
  obtain ⟨hkey, hnumber, hnamed⟩ := hknows
  refine ⟨(write_key _ _ _).trans hkey, fun n hn => ?_, hgoes.named hnamed⟩
  rcases hgoes.number n hn with hn | hwrite
  · exact hstays.no n (hnumber n hn)
  · have hfrom := provisionStep_from unicode s ctx reply stage
    rw [hwrite] at hfrom ⊢
    exact numbered_no hfrom

/-- A second repository is not made: its number and key are those of the first, and so is its name. -/
theorem made_once {unicode : Unicode} {e : EnrollmentId} {s : State} {ctx : WorkspaceContext} {no : Nat}
    {repo : Repo} {base : Option String} {h : Handed} (hmade : Made unicode e s h) (he : ctx.enrollmentId = e)
    (hknows : (Attempt.running ctx (.creating no repo.name base)).Knows unicode s) :
    s.repo ctx.connectionLogin repo.name ≠ none := by
  obtain ⟨hkey, hnumber, hname⟩ := hknows
  have hkeys : h.key = ctx.key := by
    rw [he, hmade.key] at hkey
    exact Option.some.inj hkey
  have hno : h.no = no := by
    have hn := hnumber no rfl
    rw [he, hmade.no] at hn
    exact Option.some.inj hn
  obtain ⟨howner, hprogram, hcohort⟩ : h.owner = ctx.connectionLogin ∧ h.programCode = ctx.programCode ∧
      h.cohortCode = ctx.cohortCode := by
    simpa [Handed.key, WorkspaceContext.key] using hkeys
  have hthere := hmade.there
  have hsame := hmade.name
  rw [hprogram, hcohort, hno] at hsame
  have heq : h.name = repo.name := Except.ok.inj (hsame.symm.trans hname)
  rw [howner, heq] at hthere
  exact Option.isSome_iff_ne_none.1 hthere

theorem steady_step {unicode : Unicode} {e : EnrollmentId} {s s' : State} {ev : Event} (hs : Steady unicode e s)
    (hok : ev.isStart = true ∧ keepsUp e s ev = true) (h : step unicode s ev = some s') : Steady unicode e s' := by
  have hstays := step_stays hok.1 h hok.2
  cases step_moved hok.1 h with
  | same rows repos handed attempts =>
    have hkey : ∀ id, s'.rows.key id = s.rows.key id := fun id => by rw [rows]
    have hcon : s'.rows.connections = s.rows.connections := by rw [rows]
    have hmadeFor : s'.madeFor e = s.madeFor e := by
      unfold State.madeFor
      rw [handed]
    refine ⟨fun i a ha he => ?_, fun m hm => ?_, by rw [hmadeFor]; exact hs.once⟩
    · rcases attempts i a ha with ha | ⟨user, id, l, rfl, hload⟩
      · exact (hs.attempts i a ha he).mono (hkey _) hcon (he ▸ hstays)
      · have hl := context_key hload
        have hknows : (Attempt.connecting l).Knows unicode s := ⟨hl.1, fun n hn => hl.2.trans hn⟩
        exact hknows.mono (hkey _) hcon (he ▸ hstays)
    · rw [hmadeFor] at hm
      refine (hs.made m hm).mono (hkey e) hstays fun hthere => ?_
      unfold State.repo
      rw [repos]
      exact hthere
  | @connected i l reply next get goes =>
    have hkey : ∀ id, (s.next i next).rows.key id = s.rows.key id := fun id => by rw [next_rows]
    have hcon : (s.next i next).rows.connections = s.rows.connections := by rw [next_rows]
    refine ⟨fun j a ha he => ?_, fun m hm => ?_, by rw [next_madeFor]; exact hs.once⟩
    · rcases next_attempts ha with rfl | ha
      · obtain rfl := goes a rfl
        have hl := hs.attempts i _ get he
        have hknows : (Attempt.running (l.context (s.rows.connectionOf l.course)) .upserting).Knows unicode s :=
          ⟨hl.1, fun n hn => hl.2 n hn, trivial⟩
        exact hknows.mono (hkey _) hcon (he ▸ hstays)
      · exact (hs.attempts j a ha he).mono (hkey _) hcon (he ▸ hstays)
    · rw [next_madeFor] at hm
      exact (hs.made m hm).mono (hkey e) hstays fun hthere => by rw [next_repo]; exact hthere
  | @wrote i ctx stage reply get =>
    have hfrom := provisionStep_from unicode s ctx reply stage
    generalize hw : (provisionStep unicode s ctx reply stage).1 = w at *
    generalize hn : (provisionStep unicode s ctx reply stage).2 = next at *
    have hkey : ∀ id, ((s.write w).next i next).rows.key id = s.rows.key id := fun id => by
      rw [next_rows, write_key]
    have hcon : ((s.write w).next i next).rows.connections = s.rows.connections := by
      rw [next_rows, write_connections]
    have hwrites : Stays e s (s.write w) := hstays.trans (Stays.of_row (by rw [next_rows]))
    have hattempts : ∀ j a, ((s.write w).next i next).attempts.get j = some a → a.enrollmentId = e →
        a.Knows unicode ((s.write w).next i next) := by
      intro j a ha he
      rcases next_attempts ha with rfl | ha
      · obtain ⟨after, rfl, -⟩ := provisionStep_goes hn
        have hctx : ctx.enrollmentId = e := he
        have hknows := wrote_knows (hs.attempts i _ get hctx) (by rw [hw, hctx]; exact hwrites) hn
        rw [hw] at hknows
        exact hknows.mono (by rw [next_rows]) (by rw [next_rows]) (Stays.of_row (by rw [next_rows]))
      · rw [write_attempts] at ha
        exact (hs.attempts j a ha he).mono (hkey _) hcon (he ▸ hstays)
    have hmono : ∀ m, Made unicode e s m → Made unicode e ((s.write w).next i next) m := fun m hm =>
      hm.mono (hkey e) hstays fun hthere => by rw [next_repo]; exact write_repo w hthere
    rcases write_madeFor hfrom e with hsame | ⟨repo, no, base, hctx, rfl, hnone, howner, rfl, hmore⟩
    · refine ⟨hattempts, fun m hm => ?_, by rw [next_madeFor, hsame]; exact hs.once⟩
      rw [next_madeFor, hsame] at hm
      exact hmono m (hs.made m hm)
    · have hknows := hs.attempts i _ get hctx
      have hempty : s.madeFor e = [] := List.eq_nil_iff_forall_not_mem.2 fun m hm =>
        made_once (hs.made m hm) hctx hknows hnone
      refine ⟨hattempts, fun m hm => ?_, by rw [next_madeFor, hmore, hempty]; exact Nat.le_refl 1⟩
      rw [next_madeFor, hmore, hempty, List.mem_singleton] at hm
      subst hm
      obtain ⟨hk, hnumber, hname⟩ := hknows
      refine ⟨(hkey e).trans (hctx ▸ hk), hstays.no no (hctx ▸ hnumber no rfl), hname, ?_⟩
      rw [next_repo]
      unfold State.repo
      rw [List.find?_isSome]
      exact ⟨repo, List.mem_cons_self, by simp [handedFor, howner]⟩

/-! ## Starting again and again -/

namespace Example

/-- One student of the batch, who has not started yet. -/
def enrolled : State where
  rows := school (Table.empty.insert "e1" ⟨"fe-sep", "aisha", none, none⟩)
  repos := []
  attempts := Pool.empty
  now := 0
  issued := ["e1"]
  handed := []

/-- The first attempt makes the repository and hears nothing of it; the second finds it. -/
def retried : List Event :=
  .start 0 "aisha" "e1" :: (goesWell 0 7 ++ [.resume 0 (reply .lost), .crash 0, .tick 360000, .start 1 "aisha" "e1"]
    ++ goesWell 1 6)

/-- The first attempt stops before it has a number, and a second one takes over and finishes. -/
def takenOver : List Event :=
  .start 0 "aisha" "e1" :: (goesWell 0 3 ++ [.tick 360000, .start 1 "aisha" "e1"] ++ goesWell 1 10)

/-- The first attempt goes on, and is refused when it opens its repository to the student. -/
def wakesUp : List Event := goesWell 0 5 ++ [.resume 0 (reply .refused), .resume 0 (reply .answered)]

end Example

end Livetich.Workspace
