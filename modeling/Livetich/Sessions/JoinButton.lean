/-
The Join button of a course page (`courseSessionStatus`) against the join itself
(`resolveCourseSession`) of a student, who is routed to the course or to a batch of it.
-/
import Livetich.Sessions.Model

namespace Livetich.Sessions

open Livetich.Schedule Livetich.Lib
open Livetich.Courses (Course Enrollment)

/-! ## What each of the two says -/

/-- `courseSessionStatus(courseId).joinableNow` is true. -/
def ButtonShown (db : Db) (tzdb : String → Option Zone) (now : Int) (courseId : CourseId) : Prop :=
  ∃ status, courseSessionStatus db tzdb now courseId = .ok status ∧ status.joinableNow = true

/-- `resolveCourseSession` rejects with "No live session scheduled right now". -/
def Refused (db : Db) (tzdb : String → Option Zone) (now : Int) (freshId : SessionId) (user : JwtPayload)
    (courseId : CourseId) (teach : Bool) : Prop :=
  resolveCourseSession db tzdb now freshId user courseId teach = .error notScheduled

/-- The course meets today. -/
def MeetsToday (tzdb : String → Option Zone) (now : Int) (course : Course) : Prop :=
  ∃ window, resolveJoinWindow tzdb course.schedule now = .ok window ∧ window.joinableNow = true

/-- The schedule of the course cannot be read: its time zone is unknown. -/
def BadZone (tzdb : String → Option Zone) (now : Int) (course : Course) : Prop :=
  ∃ e, resolveJoinWindow tzdb course.schedule now = .error e

theorem joinWindow_ok {tzdb : String → Option Zone} {course : Course} {now : Int} {window : JoinWindow}
    (h : resolveJoinWindow tzdb course.schedule now = .ok window) :
    joinWindow tzdb course now = .ok window := by
  unfold joinWindow
  rw [h]
  rfl

theorem joinWindow_error {tzdb : String → Option Zone} {course : Course} {now : Int} {e : RangeError}
    (h : resolveJoinWindow tzdb course.schedule now = .error e) :
    joinWindow tzdb course now = .error (.range e) := by
  unfold joinWindow
  rw [h]
  rfl

/-- `joinableNow` says that today's meeting exists. -/
theorem joinableNow_eq {tzdb : String → Option Zone} {schedule : CourseSchedule} {now : Int}
    {window : JoinWindow} (h : resolveJoinWindow tzdb schedule now = .ok window) :
    window.joinableNow = window.current.isSome := by
  unfold resolveJoinWindow at h
  cases hocc : listOccurrences tzdb schedule with
  | error e => rw [hocc] at h; cases h
  | ok occurrences =>
    rw [hocc] at h
    simp only [bind, Except.bind] at h
    split at h <;> (cases h; rfl)

theorem meetsToday_iff {tzdb : String → Option Zone} {course : Course} {now : Int} {window : JoinWindow}
    (h : resolveJoinWindow tzdb course.schedule now = .ok window) :
    MeetsToday tzdb now course ↔ window.joinableNow = true := by
  constructor
  · rintro ⟨w, hw, hj⟩
    rw [h] at hw
    cases hw
    exact hj
  · intro hj
    exact ⟨window, h, hj⟩

/-! ## The button -/

/-- The button is shown when the course's schedule can be read and the course is live or meets today,
or is a program with a live batch. -/
theorem buttonShown_iff {db : Db} {tzdb : String → Option Zone} {now : Int} {courseId : CourseId}
    {course : Course} (hcourse : db.course courseId = some course) :
    ButtonShown db tzdb now courseId ↔ ¬ BadZone tzdb now course ∧
      (Live db courseId ∨ (parentOf course = none ∧ BatchLive db courseId) ∨ MeetsToday tzdb now course) := by
  unfold ButtonShown courseSessionStatus
  rw [hcourse]
  simp only
  cases hw : resolveJoinWindow tzdb course.schedule now with
  | error e =>
    rw [joinWindow_error hw]
    constructor
    · rintro ⟨status, h, -⟩
      cases h
    · rintro ⟨hzone, -⟩
      exact absurd ⟨e, hw⟩ hzone
  | ok window =>
    have hzone : ¬ BadZone tzdb now course := by
      rintro ⟨e, he⟩
      rw [hw] at he
      cases he
    rw [joinWindow_ok hw, meetsToday_iff hw]
    simp only [hzone, not_false_eq_true, true_and]
    constructor
    · rintro ⟨status, h, hjoin⟩
      cases h
      simp only [Bool.or_eq_true] at hjoin
      rcases hjoin with (hlive | htoday) | hwindow
      · -- a LIVE session was found, of the course or of a batch
        cases hown : db.liveOf courseId with
        | some e => exact .inl (liveOf_isSome.1 (by rw [hown]; rfl))
        | none =>
          rw [hown] at hlive
          simp only [Option.isNone_none, Bool.true_and, Option.none_or] at hlive
          cases hparent : parentOf course with
          | some p => rw [hparent] at hlive; simp at hlive
          | none =>
            rw [hparent] at hlive
            exact .inr (.inl ⟨rfl, childLive_isSome.1 (by simpa using hlive)⟩)
      · -- today's room can be LIVE only when there is a meeting today
        cases hcurrent : window.current with
        | none => rw [hcurrent] at htoday; cases htoday
        | some o => exact .inr (.inr (by rw [joinableNow_eq hw, hcurrent]; rfl))
      · exact .inr (.inr hwindow)
    · intro h
      refine ⟨_, rfl, ?_⟩
      simp only [Bool.or_eq_true]
      rcases h with hlive | ⟨hparent, hbatch⟩ | hwindow
      · obtain ⟨e, he⟩ := Option.isSome_iff_exists.1 (liveOf_isSome.2 hlive)
        exact .inl (.inl (by rw [he]; rfl))
      · obtain ⟨e, he⟩ := Option.isSome_iff_exists.1 (childLive_isSome.2 hbatch)
        refine .inl (.inl ?_)
        cases hown : db.liveOf courseId with
        | some e' => rfl
        | none => simp [hparent, he]
      · exact .inr hwindow

/-! ## The join -/

/-- A student is no host. -/
theorem not_host {user : JwtPayload} (hrole : user.role = .student) (teach : Bool) (target : Course) :
    goingLiveAsHost user teach target = false := by
  unfold goingLiveAsHost
  rw [hrole]
  rfl

/-- A student is refused when the course routed to is not live and does not meet today. -/
theorem refused_iff {db : Db} {tzdb : String → Option Zone} {now : Int} {freshId : SessionId}
    {user : JwtPayload} {courseId : CourseId} {teach : Bool} {course target : Course}
    (hrole : user.role = .student) (hcourse : db.course courseId = some course)
    (hroute : route db user course = .ok target) :
    Refused db tzdb now freshId user courseId teach ↔
      ¬ BadZone tzdb now target ∧ ¬ Live db target.id ∧ ¬ MeetsToday tzdb now target := by
  unfold Refused resolveCourseSession
  rw [hcourse]
  simp only [hroute]
  show enter db tzdb now freshId user teach target = _ ↔ _
  unfold enter
  rw [not_host hrole]
  cases hw : resolveJoinWindow tzdb target.schedule now with
  | error e =>
    rw [joinWindow_error hw]
    constructor
    · intro h
      cases h
    · rintro ⟨hzone, -⟩
      exact absurd ⟨e, hw⟩ hzone
  | ok window =>
    have hzone : ¬ BadZone tzdb now target := by
      rintro ⟨e, he⟩
      rw [hw] at he
      cases he
    rw [joinWindow_ok hw, meetsToday_iff hw, ← liveOf_isSome]
    simp only [bind, Except.bind, hzone, not_false_eq_true, true_and]
    cases hlive : db.liveOf target.id with
    | some e =>
      simp only [Option.isNone_some, Bool.false_and, Option.isSome_some, not_true_eq_false, false_and,
        iff_false]
      intro h
      cases h
    | none =>
      cases hjoin : window.joinableNow with
      | true =>
        simp only [Option.isNone_none, Bool.not_true, Bool.and_false, Bool.false_and, not_true_eq_false,
          and_false, iff_false]
        intro h
        cases h
      | false => simp [throw, throwThe, MonadExceptOf.throw]

/-! ## Both -/

theorem course_id {db : Db} {courseId : CourseId} {course : Course} (h : db.course courseId = some course) :
    course.id = courseId := by
  have := List.find?_some h
  simpa using this

/-- A student is routed to the course itself or to a row of the database. -/
theorem route_course {db : Db} {user : JwtPayload} {course target : Course} (hrole : user.role = .student)
    (hcourse : db.course course.id = some course) (hroute : route db user course = .ok target) :
    db.course target.id = some target := by
  unfold route at hroute
  rw [hrole] at hroute
  simp only at hroute
  split at hroute
  · cases hroute
    exact hcourse
  · split at hroute
    · rename_i batch hbatch
      cases hroute
      obtain ⟨e, -, he⟩ := List.exists_of_findSome?_eq_some hbatch
      split at he
      · have hfound := (Option.filter_eq_some_iff.1 he).1
        rw [course_id hfound]
        exact hfound
      · cases he
    · cases hroute

/-- The join of the course routed to is not refused to a student. -/
def Enterable (db : Db) (tzdb : String → Option Zone) (now : Int) (target : Course) : Prop :=
  BadZone tzdb now target ∨ Live db target.id ∨ MeetsToday tzdb now target

/-- When the button of a course tells the truth to a student who is routed to `target`: the course
itself, or a batch of it. -/
structure Truthful (db : Db) (tzdb : String → Option Zone) (now : Int) (course target : Course) : Prop where
  /-- Routed to the course itself: its schedule can be read, and a live batch of the program does not
  stand alone. -/
  zone : target.id = course.id → ¬ BadZone tzdb now course
  batches : target.id = course.id → parentOf course = none → BatchLive db course.id →
    Live db course.id ∨ MeetsToday tzdb now course
  /-- Routed to a batch that can be entered: the course meets today too, or it or some batch is live. -/
  enterable : target.id ≠ course.id → Enterable db tzdb now target → ¬ BadZone tzdb now course ∧
    (Live db course.id ∨ (parentOf course = none ∧ BatchLive db course.id) ∨ MeetsToday tzdb now course)
  /-- Routed to a batch that cannot: the course does not meet today, and neither it nor another batch is
  live. -/
  closed : target.id ≠ course.id → ¬ Enterable db tzdb now target → ¬ BadZone tzdb now course →
    ¬ Live db course.id ∧ ¬ MeetsToday tzdb now course ∧ (parentOf course = none → ¬ BatchLive db course.id)

/-- The button of a course is shown exactly when a student of it is not refused, if and only if the
button is `Truthful` to where the student is routed. -/
theorem button_iff_join {db : Db} {tzdb : String → Option Zone} {now : Int} {freshId : SessionId}
    {user : JwtPayload} {courseId : CourseId} {teach : Bool} {course target : Course}
    (hrole : user.role = .student) (hcourse : db.course courseId = some course)
    (hroute : route db user course = .ok target) :
    (ButtonShown db tzdb now courseId ↔ ¬ Refused db tzdb now freshId user courseId teach)
      ↔ Truthful db tzdb now course target := by
  have hid := course_id hcourse
  subst hid
  rw [buttonShown_iff hcourse, refused_iff hrole hcourse hroute]
  by_cases hsame : target.id = course.id
  · have htarget : target = course := by
      have := route_course hrole hcourse hroute
      rw [hsame, hcourse] at this
      exact (Option.some.inj this).symm
    subst htarget
    constructor
    · intro h
      have hzone : ¬ BadZone tzdb now target := fun hz => (h.2 fun hr => hr.1 hz).1 hz
      refine ⟨fun _ => hzone, fun _ hparent hbatch => ?_, fun hne => absurd hsame hne,
        fun hne => absurd hsame hne⟩
      by_contra hnone
      push Not at hnone
      exact h.1 ⟨hzone, .inr (.inl ⟨hparent, hbatch⟩)⟩ ⟨hzone, hnone⟩
    · intro h
      constructor
      · rintro ⟨-, hlive | ⟨hparent, hbatch⟩ | htoday⟩ ⟨-, hn, hm⟩
        · exact hn hlive
        · exact (h.batches rfl hparent hbatch).elim hn hm
        · exact hm htoday
      · intro hr
        have hzone := h.zone rfl
        refine ⟨hzone, ?_⟩
        by_contra hnone
        push Not at hnone
        exact hr ⟨hzone, hnone.1, hnone.2.2⟩
  · have hrefused : (¬ BadZone tzdb now target ∧ ¬ Live db target.id ∧ ¬ MeetsToday tzdb now target)
        ↔ ¬ Enterable db tzdb now target := by
      unfold Enterable
      push Not
      exact Iff.rfl
    rw [hrefused, not_not]
    constructor
    · intro h
      refine ⟨fun heq => absurd heq hsame, fun heq => absurd heq hsame, fun _ => h.2, fun _ hclosed hzone => ?_⟩
      refine ⟨fun hl => hclosed (h.1 ⟨hzone, .inl hl⟩), fun hm => hclosed (h.1 ⟨hzone, .inr (.inr hm)⟩), ?_⟩
      intro hparent hbatch
      exact hclosed (h.1 ⟨hzone, .inr (.inl ⟨hparent, hbatch⟩)⟩)
    · intro h
      constructor
      · rintro ⟨hzone, hshown⟩
        by_contra hclosed
        obtain ⟨hl, hm, hb⟩ := h.closed hsame hclosed hzone
        rcases hshown with hlive | ⟨hparent, hbatch⟩ | htoday
        · exact hl hlive
        · exact hb hparent hbatch
        · exact hm htoday
      · exact h.enterable hsame

namespace Example

def liveBatch : LiveSession :=
  { LiveSession.create "b" none 0 (.session "u") with status := .live, startedAt := some 0 }

/-- A program with one batch, whose class is live, and a student of each. -/
def school : Db where
  courses := [unscheduled "p" none, unscheduled "b" (some "p")]
  enrollments := [⟨"p", "s", "Sani", "sani@example.com", none⟩, ⟨"b", "z", "Zara", "zara@example.com", none⟩]
  sessions := ⟨[("live", liveBatch)], by decide⟩

def sani : JwtPayload := ⟨"s", .student, "Sani", some "org", none, none⟩
def zara : JwtPayload := ⟨"z", .student, "Zara", some "org", none, none⟩

def noZones : String → Option Zone := fun _ => none

end Example

open Example in
theorem zara_button :
    (ButtonShown school noZones 0 "p" ↔ ¬ Refused school noZones 0 "new" zara "p" false)
      ↔ Truthful school noZones 0 (unscheduled "p" none) (unscheduled "b" (some "p")) :=
  button_iff_join rfl rfl rfl

open Example in
/-- The button of a program shows for a live batch, where a student of the program itself is refused. -/
theorem sani_refused :
    route school sani (unscheduled "p" none) = .ok (unscheduled "p" none) ∧
    ¬ (ButtonShown school noZones 0 "p" ↔ ¬ Refused school noZones 0 "new" sani "p" false) := by
  refine ⟨rfl, fun h => ?_⟩
  have hshown : ButtonShown school noZones 0 "p" := ⟨_, rfl, rfl⟩
  exact h.1 hshown rfl

end Livetich.Sessions
