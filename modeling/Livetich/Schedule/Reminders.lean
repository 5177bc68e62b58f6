/-
Reminders before a class: `RemindersService.sweep` as steps between its awaits, any number of sweeps side by side,
over the latches of `SessionReminder` and the mails sent.

Between two awaits the loop passes over courses that are not due; here each turn is a step, at a time of its own. A
latch row goes only with its course, and a write for a course that is gone fails. `sendClassReminder` never throws.
-/
import Livetich.Lib.Table
import Livetich.Lib.TransSys
import Livetich.Model
import Livetich.Schedule.Occurrences

namespace Livetich.Schedule.Reminders

open TransSys Livetich.Lib

/-! ## Rows -/

structure Organization where
  preClassReminder : Bool
  reminderLeadMinutes : Int

structure Student where
  name : Option String
  email : Option String

structure Course where
  title : String
  schedule : CourseSchedule
  organization : Option Organization
  /-- The students of its enrolments. -/
  students : List Student

/-- The `where` of the sweep's query. -/
def Course.wanted (c : Course) : Bool :=
  c.organization.any (·.preClassReminder) && c.schedule.meetingTime.isSome && !c.students.isEmpty

def Course.leadMs (c : Course) : Int := ((c.organization.map (·.reminderLeadMinutes)).getD 30) * 60000

structure Mail where
  /-- The sweep that sent it, and the occurrence it is for. -/
  sweep : Nat
  courseId : CourseId
  dateKey : String
  address : String
  name : String
  courseTitle : String
  whenLabel : String
  url : String
  deriving DecidableEq

/-- What comes from outside: the zones and the clock faces of `Intl`, and `WEB_URL`. -/
structure Env where
  tzdb : String → Option Zone
  /-- The time of day at an instant; `none` where `Intl` refuses the zone. -/
  clock : Int → Option String → Option String
  webUrl : Option String

/-! ## A course's turn -/

/-- The occurrence to remind of: the next one at the time, if it lies inside the lead window of a sweep begun at
`now`. -/
def Course.due (env : Env) (c : Course) (now time : Int) : Except RangeError (Option Occurrence) := do
  let window ← resolveJoinWindow env.tzdb c.schedule time
  return window.next.filter fun next =>
    let untilMs := next.scheduledAt - now
    !(untilMs ≤ 0 || c.leadMs < untilMs)

/-- `formatWhen`; `Math.round` rounds halves up. -/
def formatWhen (env : Env) (scheduledAt : Int) (timezone : Option String) (untilMs : Int) : String :=
  let mins := max 1 ((untilMs + 30000) / 60000)
  let rel :=
    if 60 ≤ mins then "in about " ++ toString ((mins + 30) / 60) ++ " hour" ++ (if 120 ≤ mins then "s" else "")
    else "in " ++ toString mins ++ " minute" ++ (if mins = 1 then "" else "s")
  match env.clock scheduledAt timezone with
  | some time => rel ++ " · " ++ time
  | none => rel

/-- A course of a sweep begun at `now`, at its turn. -/
structure Turn where
  sweep : Nat
  now : Int
  time : Int
  id : CourseId
  course : Course

def Turn.due (env : Env) (t : Turn) : Except RangeError (Option Occurrence) := t.course.due env t.now t.time

/-- The mail to a student; one without an address gets none. -/
def Turn.mail (env : Env) (t : Turn) (next : Occurrence) (student : Student) : Option Mail :=
  (student.email.filter (· ≠ "")).map fun email =>
    { sweep := t.sweep
      courseId := t.id
      dateKey := next.dateKey
      address := email
      name := student.name.getD "there"
      courseTitle := t.course.title
      whenLabel := formatWhen env next.scheduledAt t.course.schedule.timezone (next.scheduledAt - t.now)
      url := env.webUrl.getD "http://localhost:3001" ++ "/courses/" ++ t.id }

/-- How a sweep has left a course. -/
inductive Outcome
  | notDue
  | alreadyReminded (next : Occurrence)
  | reminded (next : Occurrence)
  /-- The sweep ended before. -/
  | dropped
  deriving DecidableEq

/-! ## Sweeps between their awaits -/

/-- The courses still to come in a sweep. -/
abbrev Rest := List (CourseId × Course)

inductive Task
  | findMany (sweep : Nat) (now : Int)
  | turns (sweep : Nat) (now : Int) (rest : Rest)
  /-- `sessionReminder.create`. -/
  | latch (t : Turn) (next : Occurrence) (rest : Rest)
  /-- The loop over the students, some of them done. -/
  | mails (t : Turn) (next : Occurrence) (done students : List Student) (rest : Rest)

structure State where
  /-- The unique pairs of `SessionReminder`, with the sweep that wrote each; no handler reads the sweep. -/
  latches : Table (CourseId × String) Nat
  mails : List Mail
  /-- The number of the next sweep. -/
  sweeps : Nat
  /-- The courses each sweep has read, and how it has left them; no handler reads these. -/
  read : List (Nat × CourseId × Course)
  left : List (Turn × Outcome)
  tasks : Pool Task

def init : State := ⟨Table.empty, [], 0, [], [], Pool.empty⟩

namespace State

def goto (s : State) (i : Nat) (t : Option Task) : State := { s with tasks := s.tasks.put i t }

def leave (s : State) (t : Turn) (outcome : Outcome) : State := { s with left := (t, outcome) :: s.left }

/-- A sweep ends by an exception, with courses still to come. -/
def drop (s : State) (sweep : Nat) (now time : Int) (rest : Rest) : State :=
  { s with left := rest.map (fun c => (⟨sweep, now, time, c.1, c.2⟩, .dropped)) ++ s.left }

end State

inductive Event
  /-- The timer fires. -/
  | sweep (i : Nat) (now : Int)
  /-- The query answers task `i` out of the rows of the course table. -/
  | courses (i : Nat) (rows : Table CourseId Course)
  /-- Task `i` comes to its next course, at a time. -/
  | turn (i : Nat) (time : Int)
  /-- The write of task `i` commits, or meets the unique key. -/
  | create (i : Nat)
  | send (i : Nat)
  /-- The database call of task `i` fails in any other way, at a time. -/
  | fail (i : Nat) (time : Int)

section Steps

variable (env : Env)

def turn (s : State) (i sweep : Nat) (now time : Int) : Rest → State
  | [] => s.goto i none
  | (id, course) :: rest =>
    let t : Turn := ⟨sweep, now, time, id, course⟩
    match t.due env with
    | .error _ => (s.drop sweep now time ((id, course) :: rest)).goto i none
    | .ok none => (s.leave t .notDue).goto i (some (.turns sweep now rest))
    | .ok (some next) => s.goto i (some (.latch t next rest))

def create (s : State) (i : Nat) (t : Turn) (next : Occurrence) (rest : Rest) : State :=
  match s.latches.get (t.id, next.dateKey) with
  | some _ => (s.leave t (.alreadyReminded next)).goto i (some (.turns t.sweep t.now rest))
  | none =>
    { s with latches := s.latches.insert (t.id, next.dateKey) t.sweep }.goto i
      (some (.mails t next [] t.course.students rest))

def send (s : State) (i : Nat) (t : Turn) (next : Occurrence) (done : List Student) (rest : Rest) :
    List Student → State
  | [] => (s.leave t (.reminded next)).goto i (some (.turns t.sweep t.now rest))
  | student :: students =>
    { s with mails := s.mails ++ (t.mail env next student).toList }.goto i
      (some (.mails t next (done ++ [student]) students rest))

def step (s : State) : Event → Option State
  | .sweep i now =>
    if (s.tasks.get i).isSome then none
    else some ({ s with sweeps := s.sweeps + 1 }.goto i (some (.findMany s.sweeps now)))
  | .courses i rows => match s.tasks.get i with
    | some (.findMany sweep now) =>
      let rest := rows.entries.filter (·.2.wanted)
      some ({ s with read := rest.map (sweep, ·) ++ s.read }.goto i (some (.turns sweep now rest)))
    | _ => none
  | .turn i time => match s.tasks.get i with
    | some (.turns sweep now rest) => some (turn env s i sweep now time rest)
    | _ => none
  | .create i => match s.tasks.get i with
    | some (.latch t next rest) => some (create s i t next rest)
    | _ => none
  | .send i => match s.tasks.get i with
    | some (.mails t next done students rest) => some (send env s i t next done rest students)
    | _ => none
  | .fail i time => match s.tasks.get i with
    | some (.findMany _ _) => some (s.goto i none)
    | some (.latch t _ rest) => some (((s.drop t.sweep t.now time rest).leave t .dropped).goto i none)
    | _ => none

end Steps

/-! ## What a step does -/

inductive Effect (env : Env) (s : State) : Event → State → Prop
  | begun {i : Nat} {now : Int} (hi : s.tasks.get i = none) :
    Effect env s (.sweep i now) ({ s with sweeps := s.sweeps + 1 }.goto i (some (.findMany s.sweeps now)))
  | read {i : Nat} {rows : Table CourseId Course} {sweep : Nat} {now : Int}
    (hi : s.tasks.get i = some (.findMany sweep now)) (rest : Rest) :
    Effect env s (.courses i rows)
      ({ s with read := rest.map (sweep, ·) ++ s.read }.goto i (some (.turns sweep now rest)))
  | finished {i : Nat} {time : Int} {sweep : Nat} {now : Int} (hi : s.tasks.get i = some (.turns sweep now [])) :
    Effect env s (.turn i time) (s.goto i none)
  | threw {i : Nat} {time : Int} {sweep : Nat} {now : Int} {id : CourseId} {course : Course} {rest : Rest}
    (hi : s.tasks.get i = some (.turns sweep now ((id, course) :: rest))) {e : RangeError}
    (hdue : course.due env now time = .error e) :
    Effect env s (.turn i time) ((s.drop sweep now time ((id, course) :: rest)).goto i none)
  | passed {i : Nat} {time : Int} {sweep : Nat} {now : Int} {id : CourseId} {course : Course} {rest : Rest}
    (hi : s.tasks.get i = some (.turns sweep now ((id, course) :: rest)))
    (hdue : course.due env now time = .ok none) :
    Effect env s (.turn i time)
      ((s.leave ⟨sweep, now, time, id, course⟩ .notDue).goto i (some (.turns sweep now rest)))
  | chosen {i : Nat} {time : Int} {sweep : Nat} {now : Int} {id : CourseId} {course : Course} {rest : Rest}
    (hi : s.tasks.get i = some (.turns sweep now ((id, course) :: rest))) {next : Occurrence}
    (hdue : course.due env now time = .ok (some next)) :
    Effect env s (.turn i time) (s.goto i (some (.latch ⟨sweep, now, time, id, course⟩ next rest)))
  | already {i : Nat} {t : Turn} {next : Occurrence} {rest : Rest} (hi : s.tasks.get i = some (.latch t next rest))
    {owner : Nat} (howner : s.latches.get (t.id, next.dateKey) = some owner) :
    Effect env s (.create i) ((s.leave t (.alreadyReminded next)).goto i (some (.turns t.sweep t.now rest)))
  | latched {i : Nat} {t : Turn} {next : Occurrence} {rest : Rest} (hi : s.tasks.get i = some (.latch t next rest))
    (hfree : s.latches.get (t.id, next.dateKey) = none) :
    Effect env s (.create i) ({ s with latches := s.latches.insert (t.id, next.dateKey) t.sweep }.goto i
      (some (.mails t next [] t.course.students rest)))
  | sent {i : Nat} {t : Turn} {next : Occurrence} {done students : List Student} {student : Student} {rest : Rest}
    (hi : s.tasks.get i = some (.mails t next done (student :: students) rest)) :
    Effect env s (.send i) ({ s with mails := s.mails ++ (t.mail env next student).toList }.goto i
      (some (.mails t next (done ++ [student]) students rest)))
  | reminded {i : Nat} {t : Turn} {next : Occurrence} {done : List Student} {rest : Rest}
    (hi : s.tasks.get i = some (.mails t next done [] rest)) :
    Effect env s (.send i) ((s.leave t (.reminded next)).goto i (some (.turns t.sweep t.now rest)))
  | unread {i : Nat} {time : Int} {sweep : Nat} {now : Int} (hi : s.tasks.get i = some (.findMany sweep now)) :
    Effect env s (.fail i time) (s.goto i none)
  | unlatched {i : Nat} {time : Int} {t : Turn} {next : Occurrence} {rest : Rest}
    (hi : s.tasks.get i = some (.latch t next rest)) :
    Effect env s (.fail i time) (((s.drop t.sweep t.now time rest).leave t .dropped).goto i none)

section Proofs

variable {env : Env} {s s' : State} {e : Event}

theorem turn_effect {i : Nat} {time : Int} {sweep : Nat} {now : Int} {rest : Rest}
    (hi : s.tasks.get i = some (.turns sweep now rest)) :
    Effect env s (.turn i time) (turn env s i sweep now time rest) := by
  cases rest with
  | nil => exact .finished hi
  | cons c rest =>
    obtain ⟨id, course⟩ := c
    unfold turn
    dsimp only
    split
    · rename_i hdue
      exact .threw hi hdue
    · rename_i hdue
      exact .passed hi hdue
    · rename_i hdue
      exact .chosen hi hdue

theorem create_effect {i : Nat} {t : Turn} {next : Occurrence} {rest : Rest}
    (hi : s.tasks.get i = some (.latch t next rest)) : Effect env s (.create i) (create s i t next rest) := by
  unfold create
  split
  · rename_i howner
    exact .already hi howner
  · rename_i hfree
    exact .latched hi hfree

theorem step_effect (h : step env s e = some s') : Effect env s e s' := by
  cases e with
  | sweep i now =>
    rw [step] at h
    split at h
    · cases h
    · rename_i hfree
      cases h
      exact .begun (Option.not_isSome_iff_eq_none.1 hfree)
  | courses i rows =>
    rw [step] at h
    split at h
    · rename_i hi
      cases h
      exact .read hi _
    · cases h
  | turn i time =>
    rw [step] at h
    split at h
    · rename_i hi
      cases h
      exact turn_effect hi
    · cases h
  | create i =>
    rw [step] at h
    split at h
    · rename_i hi
      cases h
      exact create_effect hi
    · cases h
  | send i =>
    rw [step] at h
    split at h
    · rename_i t next done students rest hi
      cases h
      cases students with
      | nil => exact .reminded hi
      | cons student students => exact .sent hi
    · cases h
  | fail i time =>
    rw [step] at h
    split at h
    · rename_i hi
      cases h
      exact .unread hi
    · rename_i hi
      cases h
      exact .unlatched hi
    · cases h

/-! ## The invariant -/

/-- The courses a task still has to deal with. -/
def Task.pending : Task → List (Nat × CourseId × Course)
  | .findMany _ _ => []
  | .turns sweep _ rest => rest.map (sweep, ·)
  | .latch t _ rest | .mails t _ _ _ rest => (t.sweep, t.id, t.course) :: rest.map (t.sweep, ·)

/-- A course is where the sweep has left it, or to come in a task. -/
def Placed (s : State) (r : Nat × CourseId × Course) : Prop :=
  (∃ p ∈ s.left, (p.1.sweep, p.1.id, p.1.course) = r) ∨ ∃ i t, s.tasks.get i = some t ∧ r ∈ t.pending

variable (env) in
def Task.Sound (s : State) : Task → Prop
  | .latch t next _ => t.due env = .ok (some next)
  | .mails t next done students _ => t.due env = .ok (some next) ∧
      s.latches.get (t.id, next.dateKey) = some t.sweep ∧ done ++ students = t.course.students ∧
      ∀ student ∈ done, ∀ mail ∈ t.mail env next student, mail ∈ s.mails
  | _ => True

variable (env) in
structure Inv (s : State) : Prop where
  /-- A mail is of the sweep that wrote the latch. -/
  owned : ∀ m ∈ s.mails, s.latches.get (m.courseId, m.dateKey) = some m.sweep
  tasks : ∀ i t, s.tasks.get i = some t → t.Sound env s
  /-- Every course a sweep has read is left, or still to come. -/
  all : ∀ r ∈ s.read, Placed s r

/-- Latches and mails stay. -/
structure Grows (s s' : State) : Prop where
  latches : ∀ k owner, s.latches.get k = some owner → s'.latches.get k = some owner
  mails : ∀ m ∈ s.mails, m ∈ s'.mails

theorem effect_grows (h : Effect env s e s') : Grows s s' := by
  cases h with
  | latched hi hfree => exact ⟨fun k owner hk => Table.get_insert_of_some hk _ _, fun _ hm => hm⟩
  | sent hi => exact ⟨fun _ _ hk => hk, fun _ hm => List.mem_append_left _ hm⟩
  | _ => exact ⟨fun _ _ hk => hk, fun _ hm => hm⟩

theorem sound_grows {t : Task} (h : t.Sound env s) (hgrows : Grows s s') : t.Sound env s' := by
  cases t with
  | mails t next done students rest =>
    obtain ⟨hdue, howner, hdone, hmails⟩ := h
    exact ⟨hdue, hgrows.latches _ _ howner, hdone, fun st hst m hm => hgrows.mails m (hmails st hst m hm)⟩
  | latch t next rest => exact h
  | _ => trivial

theorem mail_fields {t : Turn} {next : Occurrence} {student : Student} {m : Mail} (h : m ∈ t.mail env next student) :
    m.sweep = t.sweep ∧ m.courseId = t.id ∧ m.dateKey = next.dateKey := by
  obtain ⟨email, -, rfl⟩ := Option.map_eq_some_iff.1 h
  exact ⟨rfl, rfl, rfl⟩

theorem effect_owned (h : Inv env s) (heffect : Effect env s e s') :
    ∀ m ∈ s'.mails, s'.latches.get (m.courseId, m.dateKey) = some m.sweep := by
  have hgrows := effect_grows heffect
  have hold : ∀ m ∈ s.mails, s'.latches.get (m.courseId, m.dateKey) = some m.sweep :=
    fun m hm => hgrows.latches _ _ (h.owned m hm)
  cases heffect with
  | @sent i t next done students student rest hi =>
    obtain ⟨-, howner, -, -⟩ := h.tasks _ _ hi
    intro m hm
    rcases List.mem_append.1 hm with hm | hm
    · exact hold m hm
    · obtain ⟨hsweep, hid, hkey⟩ := mail_fields (Option.mem_toList.1 hm)
      rw [hsweep, hid, hkey]
      exact howner
  | _ => exact hold

/-- What a task becomes has its place in the invariant. -/
theorem tasks_put {t : Option Task} {i : Nat} (h : Inv env s) (hgrows : Grows s s')
    (htasks : s'.tasks = s.tasks.put i t) (ht : ∀ u, t = some u → u.Sound env s') :
    ∀ j u, s'.tasks.get j = some u → u.Sound env s' := by
  intro j u hu
  rw [htasks] at hu
  rcases Pool.get_put_cases hu with ⟨-, hu⟩ | ⟨-, hu⟩
  · exact ht u hu
  · exact sound_grows (h.tasks j u hu) hgrows

theorem effect_tasks (h : Inv env s) (heffect : Effect env s e s') :
    ∀ j u, s'.tasks.get j = some u → u.Sound env s' := by
  have hgrows := effect_grows heffect
  cases heffect with
  | begun hi => exact tasks_put h hgrows rfl (by rintro u ⟨⟩; trivial)
  | read hi rest => exact tasks_put h hgrows rfl (by rintro u ⟨⟩; trivial)
  | finished hi => exact tasks_put h hgrows rfl (by rintro u ⟨⟩)
  | threw hi hdue => exact tasks_put h hgrows rfl (by rintro u ⟨⟩)
  | passed hi hdue => exact tasks_put h hgrows rfl (by rintro u ⟨⟩; trivial)
  | chosen hi hdue => exact tasks_put h hgrows rfl (by rintro u ⟨⟩; exact hdue)
  | already hi howner => exact tasks_put h hgrows rfl (by rintro u ⟨⟩; trivial)
  | @latched i t next rest hi hfree =>
    refine tasks_put h hgrows rfl ?_
    rintro u ⟨⟩
    refine ⟨h.tasks _ _ hi, ?_, rfl, ?_⟩
    · show (s.latches.insert (t.id, next.dateKey) t.sweep).get _ = _
      rw [Table.get_insert hfree, if_pos rfl]
    · rintro student ⟨⟩
  | @sent i t next done students student rest hi =>
    obtain ⟨hdue, howner, hdone, hmails⟩ := h.tasks _ _ hi
    refine tasks_put h hgrows rfl ?_
    rintro u ⟨⟩
    refine ⟨hdue, howner, by rw [List.append_assoc]; exact hdone, fun st hst m hm => ?_⟩
    rcases List.mem_append.1 hst with hst | hst
    · exact hgrows.mails m (hmails st hst m hm)
    · cases List.mem_singleton.1 hst
      exact List.mem_append_right _ (Option.mem_toList.2 hm)
  | reminded hi => exact tasks_put h hgrows rfl (by rintro u ⟨⟩; trivial)
  | unread hi => exact tasks_put h hgrows rfl (by rintro u ⟨⟩)
  | unlatched hi => exact tasks_put h hgrows rfl (by rintro u ⟨⟩)

theorem placed_put {i : Nat} {t : Option Task} {r : Nat × CourseId × Course} (hleft : ∀ p ∈ s.left, p ∈ s'.left)
    (htasks : s'.tasks = s.tasks.put i t)
    (hold : ∀ u, s.tasks.get i = some u → ∀ r ∈ u.pending, (∃ p ∈ s'.left, (p.1.sweep, p.1.id, p.1.course) = r) ∨
      ∃ v, t = some v ∧ r ∈ v.pending) (h : Placed s r) : Placed s' r := by
  rcases h with ⟨p, hp, hr⟩ | ⟨j, u, hu, hr⟩
  · exact .inl ⟨p, hleft p hp, hr⟩
  · by_cases hj : j = i
    · subst hj
      rcases hold u hu r hr with hleft | ⟨v, hv, hr⟩
      · exact .inl hleft
      · refine .inr ⟨j, v, ?_, hr⟩
        rw [htasks, Pool.get_put_self, hv]
    · refine .inr ⟨j, u, ?_, hr⟩
      rw [htasks, Pool.get_put_of_ne hj]
      exact hu

theorem placed_of {i : Nat} {u : Task} {t : Option Task} {r : Nat × CourseId × Course} (hi : s.tasks.get i = some u)
    (hleft : ∀ p ∈ s.left, p ∈ s'.left) (htasks : s'.tasks = s.tasks.put i t)
    (hmove : ∀ r ∈ u.pending, (∃ p ∈ s'.left, (p.1.sweep, p.1.id, p.1.course) = r) ∨ ∃ v, t = some v ∧ r ∈ v.pending)
    (h : Placed s r) : Placed s' r := by
  refine placed_put hleft htasks (fun v hv => ?_) h
  cases hi.symm.trans hv
  exact hmove

theorem effect_placed (heffect : Effect env s e s') {r : Nat × CourseId × Course} (h : Placed s r) : Placed s' r := by
  cases heffect with
  | begun hi =>
    refine @placed_put s _ _ _ _ (fun _ hp => hp) rfl (fun v hv => ?_) h
    rw [hi] at hv
    cases hv
  | read hi rest =>
    refine placed_of hi (fun _ hp => hp) rfl ?_ h
    rintro r ⟨⟩
  | finished hi =>
    refine placed_of hi (fun _ hp => hp) rfl ?_ h
    rintro r ⟨⟩
  | threw hi hdue =>
    refine placed_of hi (fun _ hp => List.mem_append_right _ hp) rfl (fun r hr => ?_) h
    obtain ⟨c, hc, rfl⟩ := List.mem_map.1 hr
    exact .inl ⟨_, List.mem_append_left _ (List.mem_map_of_mem hc), rfl⟩
  | passed hi hdue =>
    refine placed_of hi (fun _ hp => List.mem_cons_of_mem _ hp) rfl (fun r hr => ?_) h
    rcases List.mem_cons.1 hr with rfl | hr
    · exact .inl ⟨_, List.mem_cons_self, rfl⟩
    · exact .inr ⟨_, rfl, hr⟩
  | chosen hi hdue =>
    refine placed_of hi (fun _ hp => hp) rfl (fun r hr => ?_) h
    exact .inr ⟨_, rfl, hr⟩
  | already hi howner =>
    refine placed_of hi (fun _ hp => List.mem_cons_of_mem _ hp) rfl (fun r hr => ?_) h
    rcases List.mem_cons.1 hr with rfl | hr
    · exact .inl ⟨_, List.mem_cons_self, rfl⟩
    · exact .inr ⟨_, rfl, hr⟩
  | latched hi hfree =>
    refine placed_of hi (fun _ hp => hp) rfl (fun r hr => ?_) h
    exact .inr ⟨_, rfl, hr⟩
  | sent hi =>
    refine placed_of hi (fun _ hp => hp) rfl (fun r hr => ?_) h
    exact .inr ⟨_, rfl, hr⟩
  | reminded hi =>
    refine placed_of hi (fun _ hp => List.mem_cons_of_mem _ hp) rfl (fun r hr => ?_) h
    rcases List.mem_cons.1 hr with rfl | hr
    · exact .inl ⟨_, List.mem_cons_self, rfl⟩
    · exact .inr ⟨_, rfl, hr⟩
  | unread hi =>
    refine placed_of hi (fun _ hp => hp) rfl ?_ h
    rintro r ⟨⟩
  | unlatched hi =>
    refine placed_of hi (fun _ hp => List.mem_cons_of_mem _ (List.mem_append_right _ hp)) rfl (fun r hr => ?_) h
    rcases List.mem_cons.1 hr with rfl | hr
    · exact .inl ⟨_, List.mem_cons_self, rfl⟩
    · obtain ⟨c, hc, rfl⟩ := List.mem_map.1 hr
      exact .inl ⟨_, List.mem_cons_of_mem _ (List.mem_append_left _ (List.mem_map_of_mem hc)), rfl⟩

theorem effect_all (h : Inv env s) (heffect : Effect env s e s') : ∀ r ∈ s'.read, Placed s' r := by
  have hold : ∀ r ∈ s.read, Placed s' r := fun r hr => effect_placed heffect (h.all r hr)
  cases heffect with
  | read hi rest =>
    intro r hr
    rcases List.mem_append.1 hr with hr | hr
    · exact .inr ⟨_, _, Pool.get_put_self .., hr⟩
    · exact hold r hr
  | _ => exact hold

theorem step_inv (h : Inv env s) (hstep : step env s e = some s') : Inv env s' := by
  have heffect := step_effect hstep
  exact ⟨effect_owned h heffect, effect_tasks h heffect, effect_all h heffect⟩

theorem init_inv : Inv env init := by
  refine ⟨?_, ?_, ?_⟩
  · rintro m ⟨⟩
  · rintro i t ⟨⟩
  · rintro r ⟨⟩

end Proofs

/-! ## Reminding every class, once -/

section Reminded

variable (env : Env)

/-- A course that was due at its turn has a latch when the sweep leaves it, and the mails if the sweep reminded it. -/
def Kept (s : State) (t : Turn) (outcome : Outcome) : Prop :=
  ∀ next, t.due env = .ok (some next) →
    (s.latches.get (t.id, next.dateKey)).isSome = true ∧ outcome ≠ .notDue ∧
      (outcome = .reminded next → ∀ student ∈ t.course.students, ∀ mail ∈ t.mail env next student, mail ∈ s.mails)

/-- Every course a sweep reads and that is due is reminded or latched when the sweep leaves it, and the mails of one
occurrence are of one sweep. -/
structure Reminded (s : State) : Prop where
  once : ∀ m ∈ s.mails, ∀ m' ∈ s.mails, m.courseId = m'.courseId → m.dateKey = m'.dateKey → m.sweep = m'.sweep
  all : ∀ r ∈ s.read, Placed s r
  kept : ∀ p ∈ s.left, Kept env s p.1 p.2

/-- The turn is not due, or has its latch. -/
def settled (s : State) (t : Turn) : Bool :=
  match t.due env with
  | .ok (some next) => (s.latches.get (t.id, next.dateKey)).isSome
  | _ => true

/-- No course still to come is due without a latch where a schedule throws, or where the write of a latch fails. -/
def remindsRest (s : State) : Event → Bool
  | .turn i time => match s.tasks.get i with
    | some (.turns sweep now ((_, course) :: rest)) =>
      (course.due env now time).isOk || rest.all fun c => settled env s ⟨sweep, now, time, c.1, c.2⟩
    | _ => true
  | .fail i time => match s.tasks.get i with
    | some (.latch t _ rest) =>
      settled env s t && rest.all fun c => settled env s ⟨t.sweep, t.now, time, c.1, c.2⟩
    | _ => true
  | _ => true

variable {env} {s s' : State} {e : Event}

theorem kept_grows {t : Turn} {outcome : Outcome} (h : Kept env s t outcome) (hgrows : Grows s s') :
    Kept env s' t outcome := by
  intro next hdue
  obtain ⟨hlatch, hnot, hmails⟩ := h next hdue
  obtain ⟨owner, howner⟩ := Option.isSome_iff_exists.1 hlatch
  exact ⟨Option.isSome_iff_exists.2 ⟨owner, hgrows.latches _ owner howner⟩, hnot,
    fun hout st hst m hm => hgrows.mails m (hmails hout st hst m hm)⟩

/-- A course that is dropped is kept just when it is settled. -/
theorem kept_dropped_iff {t : Turn} : Kept env s t .dropped ↔ settled env s t = true := by
  unfold Kept settled
  constructor
  · intro h
    split
    · rename_i next hdue
      exact (h next hdue).1
    · rfl
  · intro h next hdue
    rw [hdue] at h
    exact ⟨h, by rintro ⟨⟩, by rintro ⟨⟩⟩

/-- The courses a sweep leaves at once. -/
theorem kept_rest_iff {sweep : Nat} {now time : Int} {rest : Rest} :
    (∀ p ∈ rest.map (fun c => ((⟨sweep, now, time, c.1, c.2⟩ : Turn), Outcome.dropped)), Kept env s p.1 p.2) ↔
      (rest.all fun c => settled env s ⟨sweep, now, time, c.1, c.2⟩) = true := by
  simp only [List.forall_mem_map, List.all_eq_true, kept_dropped_iff]

/-- What a step leaves is kept just when the step reminds the rest. -/
theorem effect_kept (h : Inv env s) (hkept : ∀ p ∈ s.left, Kept env s p.1 p.2) (heffect : Effect env s e s') :
    (∀ p ∈ s'.left, Kept env s' p.1 p.2) ↔ remindsRest env s e = true := by
  have hold : ∀ p ∈ s.left, Kept env s' p.1 p.2 := fun p hp => kept_grows (hkept p hp) (effect_grows heffect)
  cases heffect with
  | begun hi => exact iff_of_true hold rfl
  | read hi rest => exact iff_of_true hold rfl
  | finished hi => exact iff_of_true hold (by simp only [remindsRest, hi])
  | @threw i time sweep now id course rest hi err hdue =>
    have hthis : settled env s ⟨sweep, now, time, id, course⟩ = true := by
      unfold settled Turn.due
      rw [hdue]
    have hok : remindsRest env s (.turn i time) = rest.all fun c => settled env s ⟨sweep, now, time, c.1, c.2⟩ := by
      unfold remindsRest
      simp only [hi, hdue]
      exact Bool.false_or _
    rw [hok, ← kept_rest_iff]
    show (∀ p ∈ ((⟨sweep, now, time, id, course⟩, .dropped) :: rest.map _) ++ s.left, Kept env s p.1 p.2) ↔ _
    rw [List.forall_mem_append, List.forall_mem_cons, kept_dropped_iff]
    exact ⟨fun hall => hall.1.2, fun hall => ⟨⟨hthis, hall⟩, hold⟩⟩
  | @passed i time sweep now id course rest hi hdue =>
    refine iff_of_true (List.forall_mem_cons.2 ⟨fun next hnext => ?_, hold⟩) ?_
    · cases hdue.symm.trans hnext
    · simp only [remindsRest, hi, hdue]
      rfl
  | @chosen i time sweep now id course rest hi next hdue =>
    refine iff_of_true hold ?_
    simp only [remindsRest, hi, hdue]
    rfl
  | @already i t next rest hi owner howner =>
    refine iff_of_true (List.forall_mem_cons.2 ⟨fun o ho => ?_, hold⟩) rfl
    cases (h.tasks i _ hi).symm.trans ho
    exact ⟨Option.isSome_iff_exists.2 ⟨owner, howner⟩, by rintro ⟨⟩, by rintro ⟨⟩⟩
  | latched hi hfree => exact iff_of_true hold rfl
  | sent hi => exact iff_of_true hold rfl
  | @reminded i t next done rest hi =>
    obtain ⟨hdue, howner, hdone, hmails⟩ := h.tasks i _ hi
    refine iff_of_true (List.forall_mem_cons.2 ⟨fun o ho => ?_, hold⟩) rfl
    cases hdue.symm.trans ho
    rw [List.append_nil] at hdone
    exact ⟨Option.isSome_iff_exists.2 ⟨_, howner⟩, by rintro ⟨⟩, fun _ => hdone ▸ hmails⟩
  | unread hi => exact iff_of_true hold (by simp only [remindsRest, hi])
  | @unlatched i time t next rest hi =>
    have hok : remindsRest env s (.fail i time) =
        (settled env s t && rest.all fun c => settled env s ⟨t.sweep, t.now, time, c.1, c.2⟩) := by
      simp only [remindsRest, hi]
    rw [hok, Bool.and_eq_true, ← kept_rest_iff, ← kept_dropped_iff]
    show (∀ p ∈ (t, .dropped) :: (rest.map _ ++ s.left), Kept env s p.1 p.2) ↔ _
    rw [List.forall_mem_cons, List.forall_mem_append]
    exact ⟨fun hall => ⟨hall.1, hall.2.1⟩, fun hall => ⟨hall.1, hall.2, hold⟩⟩

theorem reminded_iff (h : Inv env s) : Reminded env s ↔ ∀ p ∈ s.left, Kept env s p.1 p.2 := by
  refine ⟨fun hr => hr.kept, fun hkept => ⟨fun m hm m' hm' hid hkey => ?_, h.all, hkept⟩⟩
  have howned := h.owned m hm
  rw [hid, hkey, h.owned m' hm'] at howned
  exact (Option.some.inj howned).symm

/-- In every run of any number of sweeps, each class is mailed about by one sweep and every due class is reminded, if
and only if no class still to come is due without a latch where a sweep meets a schedule that throws, or where the
write of a latch fails. -/
theorem classes_reminded {es : List Event} (h : run (step env) init es = some s) :
    Meets (step env) (fun t e => remindsRest env t e = true) init es ↔
      ∀ es₁ es₂ t, es = es₁ ++ es₂ → run (step env) init es₁ = some t → Reminded env t := by
  have hinit : Reminded env init := by
    refine (reminded_iff init_inv).2 ?_
    rintro p ⟨⟩
  refine meets_iff (fun _ _ _ => step_inv) (fun u e u' hu hreminded hstep => ?_) init_inv hinit h
  rw [reminded_iff (step_inv hu hstep)]
  exact effect_kept hu ((reminded_iff hu).1 hreminded) (step_effect hstep)

end Reminded

/-! ### A zone that is not one -/

namespace Example

def env : Env := ⟨Schedule.Example.lagosZones, fun _ _ => some "6:00 PM GMT+1", none⟩

/-- Mondays at 18:00, for one week from 6 January 2025. -/
def mondays (timezone : String) : Course where
  title := "Web development"
  schedule := ⟨some 1736121600000, some 1, .arr [.num (.ofInt 1)], some "18:00", .null, some timezone⟩
  organization := some ⟨true, 30⟩
  students := [⟨some "Yusuf", some "yusuf@example.org"⟩]

/-- Twenty minutes before the class. -/
def now : Int := 1736181600000

def swept (rows : Table CourseId Course) : List Event := [.sweep 0 now, .courses 0 rows, .turn 0 now]

def alone : Table CourseId Course := Table.empty.insert "web-1" (mondays "Africa/Lagos")

def withTypo : Table CourseId Course :=
  (Table.empty.insert "web-0" (mondays "Lagos")).insert "web-1" (mondays "Africa/Lagos")

def mail : Mail :=
  ⟨0, "web-1", "2025-01-06", "yusuf@example.org", "Yusuf", "Web development", "in 20 minutes · 6:00 PM GMT+1",
    "http://localhost:3001/courses/web-1"⟩

end Example

open Reminders.Example in
theorem alone_reminded : ∃ s, run (step env) init (swept alone ++ [.create 0, .send 0, .send 0, .turn 0 now]) = some s ∧
    Reminded env s ∧ s.mails = [mail] := by
  have hrun : (run (step env) init (swept alone ++ [.create 0, .send 0, .send 0, .turn 0 now])).map (·.mails) =
      some [mail] := by decide
  obtain ⟨s, hs, hmails⟩ := Option.map_eq_some_iff.1 hrun
  exact ⟨s, hs, (classes_reminded hs).1 (by decide) _ [] s (List.append_nil _).symm hs, hmails⟩

open Reminders.Example in
/-- One sweep meets the course with the misspelt zone first, and ends without a mail; the other class is due and has no
latch. -/
theorem typo_unreminded : ∃ s, run (step env) init (swept withTypo) = some s ∧ ¬ Reminded env s ∧ s.mails = [] ∧
    s.tasks.entries.isEmpty = true := by
  have hrun : (run (step env) init (swept withTypo)).map (·.left) =
      some [(⟨0, now, now, "web-0", mondays "Lagos"⟩, .dropped),
        (⟨0, now, now, "web-1", mondays "Africa/Lagos"⟩, .dropped)] := rfl
  have hmails : (run (step env) init (swept withTypo)).map (fun s => (s.mails, s.tasks.entries.isEmpty)) =
      some ([], true) := by decide
  have hlatches : (run (step env) init (swept withTypo)).map (·.latches.entries) = some [] := by decide
  obtain ⟨s, hs, hleft⟩ := Option.map_eq_some_iff.1 hrun
  rw [hs] at hmails hlatches
  obtain ⟨hmails, htasks⟩ := Prod.mk.inj (Option.some.inj hmails)
  refine ⟨s, hs, fun hreminded => ?_, hmails, htasks⟩
  have hdue : (mondays "Africa/Lagos").due env now now = .ok (some ⟨"2025-01-06", 1736182800000⟩) := by
    decide +kernel
  obtain ⟨hlatch, -, -⟩ := hreminded.kept (⟨0, now, now, "web-1", mondays "Africa/Lagos"⟩, .dropped)
    (hleft ▸ List.mem_cons_of_mem _ (List.mem_singleton_self _)) _ hdue
  obtain ⟨owner, howner⟩ := Option.isSome_iff_exists.1 hlatch
  have hmem := Table.mem_of_get howner
  have hnone : s.latches.entries = [] := Option.some.inj hlatches
  rw [hnone] at hmem
  cases hmem

end Livetich.Schedule.Reminders
