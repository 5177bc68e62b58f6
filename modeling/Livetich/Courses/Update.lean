/-
Changes of a course (`CoursesService.updateCourse`): the fields a dto writes, and the announcement
of a schedule change. The fields that trigger the announcement are a list of their own, without the
per-day times, which the occurrences also depend on.
-/
import Livetich.Courses.Model
import Livetich.Schedule.Ics
import Livetich.Schedule.Overrides

namespace Livetich.Courses

open Livetich.Js Livetich.Lib Livetich.Schedule

/-! ## The dto -/

/-- A field of a partial dto: left out, `null`, or a value. -/
inductive Field (α : Type) where
  | absent
  | null
  | value (a : α)

def Field.isSet {α : Type} : Field α → Bool
  | .absent => false
  | _ => true

/-- The column after a write of the field. -/
def Field.write {α : Type} (f : Field α) (old : Option α) : Option α :=
  match f with
  | .absent => old
  | .null => none
  | .value a => some a

/-- The fields of `UpdateCourseDto`. An object of per-day times is its entries. -/
structure UpdateCourseDto where
  title : Field String
  description : Field String
  instructorId : Field UserId
  code : Field String
  category : Field String
  level : Field String
  startDate : Field String
  durationWeeks : Field Int
  meetingDays : Field (List Int)
  meetingTime : Field String
  meetingTimesByDay : Field (List (String × Json))
  timezone : Field String
  pluginKeys : Field (List String)

/-- `SCHEDULE_FIELDS`: the fields whose change is announced. -/
def UpdateCourseDto.scheduleChanged (dto : UpdateCourseDto) : Bool :=
  dto.startDate.isSet || dto.durationWeeks.isSet || dto.meetingDays.isSet ||
    dto.meetingTime.isSet || dto.timezone.isSet

/-! ## Per-day times -/

/-- One entry of the map, as `cleanTimesByDay` keeps it. -/
def setCleanTime (clean : Int → Option String) (entry : String × Json) : Int → Option String :=
  match (Number.ofString entry.1).toInteger with
  | none => clean
  | some day =>
    if day < 0 ∨ 6 < day then clean
    else
      match entry.2 with
      | .str v => if (parseHhmm v).isSome then Function.update clean day (some v) else clean
      | _ => clean

/-- The map that is stored: well-formed entries under the keys `0` to `6`, or nothing. -/
def cleanTimesByDay (raw : List (String × Json)) : Json :=
  let clean := raw.foldl setCleanTime fun _ => none
  let entries := (List.range 7).filterMap fun (day : Nat) =>
    (clean day).map fun v => (toString day, Json.str v)
  if entries.isEmpty then .null else .obj entries

/-! ## Updating -/

/-- A mail of `sendScheduleChanged`. -/
structure ScheduleMail where
  email : String
  name : String
  title : String
  url : String
deriving DecidableEq

/-- The date column after the write; the database refuses an invalid date. -/
def writeDate (env : Env) (f : Field String) (old : Option Int) : Result (Option Int) :=
  match f with
  | .absent => .ok old
  | .null => .ok none
  | .value text => (found (env.newDate text) .internal).map some

/-- The code column after the write, checked against the courses on the same level of the tree. -/
def writeCode (db : Db) (course : Course) (f : Field String) : Result (Option String) := do
  match f with
  | .absent => return course.code
  | _ =>
    let normalized := normalizeCode (f.write none)
    match course.organizationId with
    | some organizationId =>
      whenGiven normalized fun code =>
        assertCodeAvailable db organizationId course.parentCourseId code (some course.id)
    | none => .ok ()
    return normalized

def Field.isNull {α : Type} : Field α → Bool
  | .null => true
  | _ => false

/-- The row after the update. -/
def updatedRow (env : Env) (course : Course) (dto : UpdateCourseDto) (code : Option String)
    (startDate : Option Int) : Course :=
  { course with
    title := (dto.title.write (some course.title)).getD course.title
    description := dto.description.write course.description
    code := code
    category := dto.category.write course.category
    level := dto.level.write course.level
    startDate := startDate
    durationWeeks := dto.durationWeeks.write course.durationWeeks
    meetingDays := match dto.meetingDays with
      | .absent => course.meetingDays
      | .null => .null
      | .value days => daysColumn (sortDays days)
    meetingTime := dto.meetingTime.write course.meetingTime
    meetingTimesByDay := match dto.meetingTimesByDay with
      | .absent => course.meetingTimesByDay
      | .null => .null
      | .value raw => cleanTimesByDay raw
    timezone := dto.timezone.write course.timezone
    pluginKeys := match dto.pluginKeys with
      | .value keys => .arr (keys.map .str)
      | _ => course.pluginKeys
    scheduleUpdatedAt := if dto.scheduleChanged then some env.now else course.scheduleUpdatedAt }

/-- The mails of `notifyScheduleChange`: delivery failures are swallowed one by one. -/
def notifyScheduleChange (db : Db) (course : Course) (base : String) : List ScheduleMail :=
  (db.enrollments.filter fun e => e.courseId == course.id && e.reminderAddedAt.isSome).map fun e =>
    ⟨e.email, e.name, course.title, base ++ "/courses/" ++ course.id⟩

/-- The database after an update, and the mails it sends. -/
def updateCourse (env : Env) (base : String) (db : Db) (user : JwtPayload) (id : CourseId)
    (dto : UpdateCourseDto) : Result (Db × List ScheduleMail) := do
  assertCanManageCourse db user id
  let course ← found (db.course id) .internal
  let code ← writeCode db course dto.code
  -- The database client refuses a null title and a plain null in a JSON column.
  require (¬ (dto.title.isNull ∨ dto.pluginKeys.isNull)) .internal
  let startDate ← writeDate env dto.startDate course.startDate
  let updated := updatedRow env course dto code startDate
  require (env.commits updated = true) .internal
  return ({ db with courses := db.courses.map fun c => if c.id == id then updated else c },
    if dto.scheduleChanged then notifyScheduleChange db updated base else [])

/-! ## What is stored reads as what was sent -/

theorem setTimeOfDay_str {day : Nat} (h : day ≤ 6) (out : Int → Option LocalTime) (v : String) :
    setTimeOfDay out (toString day, .str v) =
      match parseHhmm v with
      | some t => Function.update out (day : Int) (some t)
      | none => out := by
  have hkey : (Number.ofString (toString day)).toInteger = some (day : Int) := by
    have hall : ∀ k : Fin 7, (Number.ofString (toString k.val)).toInteger = some (k.val : Int) := by
      decide +kernel
    exact hall ⟨day, by omega⟩
  unfold setTimeOfDay
  simp only [hkey]
  refine (if_neg (by omega)).trans ?_
  rfl

/-- What the cleaned map and the parsed one have in common: the times of the days 0 to 6. -/
structure SameTimes (clean : Int → Option String) (times : Int → Option LocalTime) : Prop where
  reads : ∀ d, (clean d).bind parseHhmm = times d
  parses : ∀ d v, clean d = some v → (parseHhmm v).isSome
  inside : ∀ d, (clean d).isSome → 0 ≤ d ∧ d ≤ 6

theorem sameTimes_step {clean : Int → Option String} {times : Int → Option LocalTime}
    (h : SameTimes clean times) (entry : String × Json) :
    SameTimes (setCleanTime clean entry) (setTimeOfDay times entry) := by
  unfold setCleanTime setTimeOfDay
  cases (Number.ofString entry.1).toInteger with
  | none => exact h
  | some day =>
    simp only
    split
    · exact h
    · rename_i hday
      cases entry.2 with
      | str v =>
        simp only
        cases ht : parseHhmm v with
        | none => exact h
        | some t =>
          refine ⟨fun d => ?_, fun d w hw => ?_, fun d hd => ?_⟩
          · by_cases heq : d = day
            · subst heq
              simp [ht]
            · simpa [Function.update, heq] using h.reads d
          · by_cases heq : d = day
            · subst heq
              simp only [Option.isSome_some, if_true, Function.update_self, Option.some.injEq] at hw
              rw [← hw, ht]
              rfl
            · exact h.parses d w (by simpa [Function.update, heq] using hw)
          · by_cases heq : d = day
            · omega
            · exact h.inside d (by simpa [Function.update, heq] using hd)
      | _ => exact h

theorem sameTimes_fold (raw : List (String × Json)) :
    SameTimes (raw.foldl setCleanTime fun _ => none) (parseTimesByDay (.obj raw)) := by
  unfold parseTimesByDay Json.entries
  have hfold : ∀ (l : List (String × Json)) (clean : Int → Option String)
      (times : Int → Option LocalTime), SameTimes clean times →
      SameTimes (l.foldl setCleanTime clean) (l.foldl setTimeOfDay times) := by
    intro l
    induction l with
    | nil => exact fun _ _ h => h
    | cons entry l ih => exact fun clean times h => ih _ _ (sameTimes_step h entry)
  exact hfold raw _ _ ⟨fun _ => rfl, fun _ _ h => (by cases h), fun _ h => (by cases h)⟩

/-- Reading back the entries of days `ds` sets exactly these days. -/
theorem foldl_entries {clean : Int → Option String}
    (hparses : ∀ d v, clean d = some v → (parseHhmm v).isSome) (ds : List Nat) (hds : ∀ d ∈ ds, d ≤ 6)
    (out : Int → Option LocalTime) (x : Int) :
    ((ds.filterMap fun (day : Nat) => (clean day).map fun v => (toString day, Json.str v)).foldl
      setTimeOfDay out) x =
      if (∃ d ∈ ds, (d : Int) = x) ∧ (clean x).isSome then (clean x).bind parseHhmm else out x := by
  induction ds generalizing out with
  | nil => simp
  | cons d ds ih =>
    have hds' : ∀ d ∈ ds, d ≤ 6 := fun e he => hds e (by simp [he])
    cases hc : clean d with
    | none =>
      rw [List.filterMap_cons_none (by simp [hc]), ih hds' out]
      by_cases hx : (d : Int) = x
      · subst hx
        simp [hc]
      · simp [hx]
    | some v =>
      obtain ⟨t, ht⟩ := Option.isSome_iff_exists.1 (hparses d v hc)
      rw [List.filterMap_cons_some (b := (toString d, Json.str v)) (by simp [hc]), List.foldl_cons,
        setTimeOfDay_str (hds d (by simp)) out v, ht, ih hds' _]
      by_cases hx : (d : Int) = x
      · subst hx
        simp [hc, ht]
      · simp [hx, Function.update, Ne.symm hx]

/-- Cleaning drops nothing that a reader of the map would use. -/
theorem parse_cleanTimesByDay (raw : List (String × Json)) :
    parseTimesByDay (cleanTimesByDay raw) = parseTimesByDay (.obj raw) := by
  have hsame := sameTimes_fold raw
  have hentries : parseTimesByDay (cleanTimesByDay raw) =
      ((List.range 7).filterMap fun (day : Nat) =>
        (raw.foldl setCleanTime (fun _ => none) day).map fun v => (toString day, Json.str v)).foldl
        setTimeOfDay fun _ => none := by
    unfold cleanTimesByDay
    simp only
    split
    · rename_i hempty
      rw [List.isEmpty_iff.1 hempty]
      rfl
    · rfl
  funext x
  rw [hentries, foldl_entries hsame.parses _ (by simp; omega), ← hsame.reads x]
  split
  · rfl
  · rename_i hout
    cases hx : raw.foldl setCleanTime (fun _ => none) x with
    | none => rfl
    | some v =>
      have hin := hsame.inside x (by rw [hx]; rfl)
      exact absurd ⟨⟨x.toNat, by simp; omega, by omega⟩, by rw [hx]; rfl⟩ hout

/-! ## The schedule after an update -/

/-- The per-day times of a course once the dto's are in place of its own. -/
def UpdateCourseDto.timesByDay (dto : UpdateCourseDto) (course : Course) : Json :=
  match dto.meetingTimesByDay with
  | .absent => course.meetingTimesByDay
  | .null => .null
  | .value raw => .obj raw

/-- The schedule of a course with the values that the dto sets in place of its own. -/
def edited (env : Env) (course : Course) (dto : UpdateCourseDto) : CourseSchedule :=
  { startDate := match dto.startDate with
      | .absent => course.startDate
      | .null => none
      | .value text => env.newDate text
    durationWeeks := dto.durationWeeks.write course.durationWeeks
    meetingDays := match dto.meetingDays with
      | .absent => course.meetingDays
      | .null => .null
      | .value days => daysColumn days
    meetingTime := dto.meetingTime.write course.meetingTime
    meetingTimesByDay := dto.timesByDay course
    timezone := dto.timezone.write course.timezone }

theorem updateCourse_row {env : Env} {base : String} {db db' : Db} {user : JwtPayload} {id : CourseId}
    {dto : UpdateCourseDto} {mails : List ScheduleMail}
    (h : updateCourse env base db user id dto = .ok (db', mails)) :
    ∃ course code startDate, db.course id = some course ∧
      writeDate env dto.startDate course.startDate = .ok startDate ∧
      db' = { db with courses := db.courses.map fun c =>
        if c.id == id then updatedRow env course dto code startDate else c } ∧
      mails = if dto.scheduleChanged then
        notifyScheduleChange db (updatedRow env course dto code startDate) base else [] := by
  unfold updateCourse at h
  obtain ⟨-, -, h⟩ := bind_ok_iff.1 h
  obtain ⟨course, hc, h⟩ := bind_ok_iff.1 h
  obtain ⟨code, -, h⟩ := bind_ok_iff.1 h
  obtain ⟨-, -, h⟩ := bind_ok_iff.1 h
  obtain ⟨startDate, hs, h⟩ := bind_ok_iff.1 h
  obtain ⟨-, -, h⟩ := bind_ok_iff.1 h
  cases h
  exact ⟨course, code, startDate, found_ok hc, hs, rfl, rfl⟩

theorem course_id {db : Db} {id : CourseId} {course : Course} (h : db.course id = some course) :
    course.id = id := by
  simpa using List.find?_some h

/-- The updated row is the one found under the id. -/
theorem course_updated {db : Db} {id : CourseId} {course updated : Course}
    (h : db.course id = some course) (hid : updated.id = course.id) :
    ({ db with courses := db.courses.map fun c => if c.id == id then updated else c } : Db).course id =
      some updated := by
  have heq : updated.id = id := hid.trans (course_id h)
  have hfun : ((fun c : Course => c.id == id) ∘ fun c => if c.id == id then updated else c) =
      fun c => c.id == id := by
    funext c
    by_cases hc : c.id = id
    · simp [hc, heq]
    · simp [hc]
  unfold Db.course at h ⊢
  rw [List.find?_map, hfun, h, Option.map_some, if_pos (List.find?_some h)]

theorem writeDate_ok {env : Env} {course : Course} {dto : UpdateCourseDto} {d : Option Int}
    (h : writeDate env dto.startDate course.startDate = .ok d) : (edited env course dto).startDate = d := by
  unfold writeDate at h
  unfold edited
  cases hd : dto.startDate with
  | absent =>
    rw [hd] at h
    cases h
    rfl
  | null =>
    rw [hd] at h
    cases h
    rfl
  | value text =>
    rw [hd] at h
    cases ht : env.newDate text with
    | none => simp [ht, found, Except.map] at h
    | some t => simpa [ht, found, Except.map] using h

/-- Sorting the days and cleaning the per-day times keeps the occurrences that the dto asks for. -/
theorem updatedRow_occurrences (tzdb : String → Option Zone) {env : Env} {course : Course}
    {dto : UpdateCourseDto} {code : Option String} {d : Option Int}
    (h : writeDate env dto.startDate course.startDate = .ok d) :
    listOccurrences tzdb (updatedRow env course dto code d).schedule =
      listOccurrences tzdb (edited env course dto) := by
  have hd := writeDate_ok h
  have hdays : ∀ n, n ∈ meetingDaysOf (updatedRow env course dto code d).meetingDays ↔
      n ∈ meetingDaysOf (edited env course dto).meetingDays := by
    intro n
    unfold updatedRow edited
    cases dto.meetingDays with
    | absent => rfl
    | null => rfl
    | value days => exact mem_sortedColumn
  have htimes : parseTimesByDay (updatedRow env course dto code d).meetingTimesByDay =
      parseTimesByDay (edited env course dto).meetingTimesByDay := by
    unfold updatedRow edited UpdateCourseDto.timesByDay
    cases dto.meetingTimesByDay with
    | absent => rfl
    | null => rfl
    | value raw => exact parse_cleanTimesByDay raw
  have hschedule : (updatedRow env course dto code d).schedule =
      { edited env course dto with
        meetingDays := (updatedRow env course dto code d).meetingDays
        meetingTimesByDay := (updatedRow env course dto code d).meetingTimesByDay } := by
    subst hd
    rfl
  rw [hschedule]
  have hclean := listOccurrences_sameTimes tzdb
    { edited env course dto with meetingDays := (updatedRow env course dto code d).meetingDays } htimes
  exact hclean.trans (listOccurrences_withDays tzdb (edited env course dto) _ hdays)

theorem edited_unlisted {env : Env} {course : Course} {dto : UpdateCourseDto}
    (h : dto.scheduleChanged = false) :
    edited env course dto = { course.schedule with meetingTimesByDay := dto.timesByDay course } := by
  have habsent : ∀ {α : Type} (f : Field α), f.isSet = false → f = .absent := by
    intro α f hf
    cases f with
    | absent => rfl
    | null => cases hf
    | value a => cases hf
  unfold UpdateCourseDto.scheduleChanged at h
  simp only [Bool.or_eq_false_iff] at h
  obtain ⟨⟨⟨⟨hstart, hweeks⟩, hdays⟩, htime⟩, hzone⟩ := h
  unfold edited
  rw [habsent _ hstart, habsent _ hweeks, habsent _ hdays, habsent _ htime, habsent _ hzone]
  rfl

/-! ## Announcements -/

/-- A schedule change is announced: the row is stamped, the sequence of its calendar file rises, and
every student of the course who added a reminder is mailed. -/
structure Announced (env : Env) (db : Db) (course updated : Course) (mails : List ScheduleMail) : Prop where
  stamped : updated.scheduleUpdatedAt = some env.now
  sequence : Schedule.sequence course.scheduleUpdatedAt < Schedule.sequence updated.scheduleUpdatedAt
  mailed : ∀ e ∈ db.enrollments, e.courseId = course.id → e.reminderAddedAt.isSome →
    ∃ mail ∈ mails, mail.email = e.email ∧ mail.name = e.name

/-- When an update is announced if it has to be: with one of the listed fields in the dto, in a later
second than the last stamp unless the occurrences stay; with none, only if the per-day times in the
dto move no class. -/
def Covered (tzdb : String → Option Zone) (env : Env) (course : Course) (dto : UpdateCourseDto) : Prop :=
  if dto.scheduleChanged then
    sequence course.scheduleUpdatedAt < env.now / 1000 ∨
      listOccurrences tzdb (edited env course dto) = listOccurrences tzdb course.schedule
  else KeepsTimes tzdb course.schedule (parseTimesByDay (dto.timesByDay course))

theorem notify_mails {db : Db} {course updated : Course} {base : String} (hid : updated.id = course.id) :
    ∀ e ∈ db.enrollments, e.courseId = course.id → e.reminderAddedAt.isSome →
      ∃ mail ∈ notifyScheduleChange db updated base, mail.email = e.email ∧ mail.name = e.name := by
  intro e he hcourse hreminder
  refine ⟨_, List.mem_map_of_mem (List.mem_filter.2 ⟨he, ?_⟩), rfl, rfl⟩
  simp [hcourse, hid, hreminder]

/-- Every update that changes the occurrences of a course is announced, exactly when the update is
`Covered`. -/
theorem schedule_change_announced {env : Env} {base : String} {db db' : Db} {user : JwtPayload}
    {id : CourseId} {dto : UpdateCourseDto} {mails : List ScheduleMail}
    (h : updateCourse env base db user id dto = .ok (db', mails)) (tzdb : String → Option Zone) :
    ∃ course updated, db.course id = some course ∧ db'.course id = some updated ∧
      ((listOccurrences tzdb updated.schedule ≠ listOccurrences tzdb course.schedule →
        Announced env db course updated mails) ↔ Covered tzdb env course dto) := by
  obtain ⟨course, code, d, hc, hd, rfl, rfl⟩ := updateCourse_row h
  have hid : (updatedRow env course dto code d).id = course.id := rfl
  refine ⟨course, updatedRow env course dto code d, hc, course_updated hc hid, ?_⟩
  rw [updatedRow_occurrences tzdb hd]
  unfold Covered
  cases hs : dto.scheduleChanged with
  | true =>
    have hstamp : (updatedRow env course dto code d).scheduleUpdatedAt = some env.now := by
      unfold updatedRow
      simp only [hs, if_true]
    simp only [if_true]
    constructor
    · intro himp
      by_cases heq : listOccurrences tzdb (edited env course dto) = listOccurrences tzdb course.schedule
      · exact Or.inr heq
      · have hseq := (himp heq).sequence
        rw [hstamp] at hseq
        exact Or.inl hseq
    · rintro (hlt | heq) hne
      · refine ⟨hstamp, ?_, notify_mails hid⟩
        rw [hstamp]
        exact hlt
      · exact absurd heq hne
  | false =>
    have hstamp : (updatedRow env course dto code d).scheduleUpdatedAt = course.scheduleUpdatedAt := by
      unfold updatedRow
      simp only [hs, Bool.false_eq_true, if_false]
    simp only [Bool.false_eq_true, if_false]
    rw [edited_unlisted hs, ← listOccurrences_withTimes]
    constructor
    · intro himp
      by_contra hne
      have hseq := (himp hne).sequence
      rw [hstamp] at hseq
      exact absurd hseq (Int.lt_irrefl _)
    · intro heq hne
      exact absurd heq hne

/-! ## Mondays moved by two hours -/

namespace Example

/-- Mondays at 18:00 from Monday 6 January 2025 for a week. -/
def mondays : Course :=
  { id := "c", organizationId := some "org", instructorId := some "t", parentCourseId := none
    title := "Web", description := none, posterUrl := none, code := none, category := none
    level := none
    startDate := some 1736121600000
    durationWeeks := some 1
    meetingDays := daysColumn [1]
    meetingTime := some "18:00"
    meetingTimesByDay := .null
    timezone := some "Africa/Lagos"
    scheduleUpdatedAt := some 1735700000000, instantClassAssessment := true, pluginKeys := .null }

def orgAdmin : JwtPayload := ⟨"a", .orgAdmin, "Ada", some "org", none, none⟩

/-- A student of the course who added a reminder. -/
def rows : Db := ⟨[mondays], [], [⟨"c", "s", "Sani", "sani@example.com", some 1735800000000⟩]⟩

def later : Env := ⟨1735900000000, fun _ => none, "x", fun _ => true⟩

def noChange : UpdateCourseDto :=
  ⟨.absent, .absent, .absent, .absent, .absent, .absent, .absent, .absent, .absent, .absent, .absent,
    .absent, .absent⟩

/-- The dto gives Mondays a time of their own. -/
def eveningMondays : UpdateCourseDto :=
  { noChange with meetingTimesByDay := .value [("1", .str "20:00")] }

def movedRow : Course := updatedRow later mondays eveningMondays none mondays.startDate

theorem update_accepted :
    updateCourse later "https://app" rows orgAdmin "c" eveningMondays =
      .ok ({ rows with courses := [movedRow] }, []) := rfl

end Example

open Example in
theorem evening_mondays_covered :
    ∃ course updated, rows.course "c" = some course ∧
      ({ rows with courses := [movedRow] } : Db).course "c" = some updated ∧
      ((listOccurrences Schedule.Example.lagosZones updated.schedule ≠
          listOccurrences Schedule.Example.lagosZones course.schedule →
        Announced later rows course updated []) ↔ Covered Schedule.Example.lagosZones later course eveningMondays) :=
  schedule_change_announced update_accepted Schedule.Example.lagosZones

open Example in
theorem evening_mondays_unannounced :
    ¬ ∀ (env : Env) (base : String) (db db' : Db) (user : JwtPayload) (id : CourseId)
        (dto : UpdateCourseDto) (mails : List ScheduleMail) (tzdb : String → Option Zone)
        (course updated : Course), updateCourse env base db user id dto = .ok (db', mails) →
        db.course id = some course → db'.course id = some updated →
        listOccurrences tzdb updated.schedule ≠ listOccurrences tzdb course.schedule →
        Announced env db course updated mails := by
  intro h
  have hbefore : listOccurrences Schedule.Example.lagosZones mondays.schedule =
      .ok [⟨"2025-01-06", 1736182800000⟩] := by
    decide +kernel
  have hafter : listOccurrences Schedule.Example.lagosZones movedRow.schedule =
      .ok [⟨"2025-01-06", 1736190000000⟩] := by
    decide +kernel
  have hne : listOccurrences Schedule.Example.lagosZones movedRow.schedule ≠
      listOccurrences Schedule.Example.lagosZones mondays.schedule := by
    rw [hbefore, hafter]
    exact fun heq => absurd (Except.ok.inj heq) (by decide)
  obtain ⟨hstamped, -, -⟩ :=
    h later "https://app" rows _ orgAdmin "c" eveningMondays [] Schedule.Example.lagosZones mondays movedRow
      update_accepted rfl rfl hne
  exact absurd hstamped (by decide)

end Livetich.Courses
