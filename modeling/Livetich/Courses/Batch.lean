/-
Batches (`CoursesService.createBatch`): a batch takes its cadence from its program but for the
fields its dto sets. The row is built without the program's per-day times, so the batch meets when
the program would exactly where no such time moves a class.
-/
import Livetich.Courses.Model
import Livetich.Schedule.Overrides

namespace Livetich.Courses

open Livetich.Js Livetich.Lib Livetich.Schedule

/-! ## Creating a batch -/

structure CreateBatchDto where
  label : Option String
  instructorId : Option UserId
  code : Option String
  startDate : Option String
  durationWeeks : Option Int
  meetingDays : Option (List Int)
  meetingTime : Option String
  timezone : Option String

/-- `new Date(dto.startDate)` where a date is set; the database refuses an invalid one. -/
def startDateOf (env : Env) (program : Course) (dto : CreateBatchDto) : Result (Option Int) :=
  match dto.startDate with
  | none => .ok program.startDate
  | some text => (found (env.newDate text) .internal).map some

/-- The row `createBatch` writes. -/
def batchRow (env : Env) (orgId : OrganizationId) (program : Course) (dto : CreateBatchDto)
    (startDate : Option Int) : Course :=
  let label := (dto.label.map trimString).filter (· ≠ "")
  { id := env.freshId
    organizationId := some orgId
    parentCourseId := some program.id
    code := normalizeCode dto.code
    instructorId := dto.instructorId <|> program.instructorId
    title := match label with
      | some label => program.title ++ " — " ++ label
      | none => program.title
    description := program.description
    pluginKeys := program.pluginKeys
    posterUrl := program.posterUrl
    category := program.category
    level := program.level
    startDate := startDate
    durationWeeks := dto.durationWeeks <|> program.durationWeeks
    meetingDays := match dto.meetingDays with
      | some days => daysColumn (sortDays days)
      | none => program.meetingDays
    meetingTime := dto.meetingTime <|> program.meetingTime
    -- The row selects `meetingTimesByDay` of the program and does not write it.
    meetingTimesByDay := .null
    timezone := dto.timezone <|> program.timezone
    instantClassAssessment := program.instantClassAssessment
    scheduleUpdatedAt := some env.now }

/-- The row of a new batch of a program, once its transaction has committed. -/
def createBatch (env : Env) (db : Db) (user : JwtPayload) (programId : CourseId)
    (dto : CreateBatchDto) : Result Course := do
  let orgId ← orgOf user
  let program ← found ((db.course programId).filter fun p => p.organizationId == some orgId)
    (.notFound "Program not found")
  require (program.parentCourseId = none)
    (.badRequest "Batches can only be created on a program, not on another batch")
  whenGiven dto.instructorId (assertOrgInstructor db orgId)
  whenGiven (normalizeCode dto.code) fun code => assertCodeAvailable db orgId (some program.id) code none
  let startDate ← startDateOf env program dto
  let batch := batchRow env orgId program dto startDate
  require (env.commits batch = true) .internal
  return batch

/-! ## Its occurrences -/

/-- The program's schedule with the fields that the dto sets in place of its own. -/
def inherited (env : Env) (program : Course) (dto : CreateBatchDto) : CourseSchedule :=
  { program.schedule with
    startDate := match dto.startDate with
      | some text => env.newDate text
      | none => program.startDate
    durationWeeks := dto.durationWeeks <|> program.durationWeeks
    meetingDays := match dto.meetingDays with
      | some days => daysColumn days
      | none => program.meetingDays
    meetingTime := dto.meetingTime <|> program.meetingTime
    timezone := dto.timezone <|> program.timezone }

/-- A batch that is created is the row of its program, and its transaction has committed. -/
theorem createBatch_ok {env : Env} {db : Db} {user : JwtPayload} {programId : CourseId}
    {dto : CreateBatchDto} {batch : Course} (h : createBatch env db user programId dto = .ok batch) :
    (∃ orgId program startDate, db.course programId = some program ∧
      startDateOf env program dto = .ok startDate ∧ batch = batchRow env orgId program dto startDate) ∧
      env.commits batch = true := by
  unfold createBatch at h
  obtain ⟨orgId, -, h⟩ := bind_ok_iff.1 h
  obtain ⟨program, hp, h⟩ := bind_ok_iff.1 h
  obtain ⟨-, -, h⟩ := bind_ok_iff.1 h
  obtain ⟨-, -, h⟩ := bind_ok_iff.1 h
  obtain ⟨-, -, h⟩ := bind_ok_iff.1 h
  obtain ⟨startDate, hs, h⟩ := bind_ok_iff.1 h
  obtain ⟨_, hcommits, h⟩ := bind_ok_iff.1 h
  cases h
  exact ⟨⟨orgId, program, startDate, (Option.filter_eq_some_iff.1 (found_ok hp)).1, hs, rfl⟩, require_ok hcommits⟩

theorem startDateOf_ok {env : Env} {program : Course} {dto : CreateBatchDto} {d : Option Int}
    (h : startDateOf env program dto = .ok d) : (inherited env program dto).startDate = d := by
  unfold startDateOf at h
  unfold inherited
  cases hd : dto.startDate with
  | none =>
    rw [hd] at h
    cases h
    rfl
  | some text =>
    rw [hd] at h
    cases ht : env.newDate text with
    | none => simp [ht, found, Except.map] at h
    | some t => simpa [ht, found, Except.map] using h

/-- The batch has the schedule it inherits, with its days in order and without per-day times. -/
theorem batchRow_schedule {env : Env} {orgId : OrganizationId} {program : Course}
    {dto : CreateBatchDto} {d : Option Int} (h : (inherited env program dto).startDate = d) :
    (batchRow env orgId program dto d).schedule =
      { inherited env program dto with
        meetingTimesByDay := .null, meetingDays := (batchRow env orgId program dto d).meetingDays } := by
  subst h
  rfl

theorem batchRow_days (env : Env) (orgId : OrganizationId) (program : Course) (dto : CreateBatchDto)
    (d : Option Int) (n : Number) :
    n ∈ meetingDaysOf (batchRow env orgId program dto d).meetingDays ↔
      n ∈ meetingDaysOf (inherited env program dto).meetingDays := by
  unfold batchRow inherited
  cases dto.meetingDays with
  | none => rfl
  | some days =>
    exact mem_sortedColumn

/-- A batch meets when its program would, with the fields of the dto in place of the program's,
exactly when the per-day times of the program move no class. -/
theorem batch_cadence {env : Env} {db : Db} {user : JwtPayload} {programId : CourseId}
    {dto : CreateBatchDto} {batch : Course} (h : createBatch env db user programId dto = .ok batch)
    (tzdb : String → Option Zone) :
    ∃ program, db.course programId = some program ∧
      (listOccurrences tzdb batch.schedule = listOccurrences tzdb (inherited env program dto) ↔
        KeepsTimes tzdb (inherited env program dto) fun _ => none) := by
  obtain ⟨orgId, program, d, hp, hd, rfl⟩ := (createBatch_ok h).1
  refine ⟨program, hp, ?_⟩
  rw [batchRow_schedule (startDateOf_ok hd)]
  have hdays := listOccurrences_withDays tzdb { inherited env program dto with meetingTimesByDay := .null }
    (batchRow env orgId program dto d).meetingDays (batchRow_days env orgId program dto d)
  rw [hdays]
  exact listOccurrences_withTimes tzdb (inherited env program dto) .null

/-! ## A program with a late Wednesday -/

namespace Example

/-- Mondays and Wednesdays at 18:00 from Monday 6 January 2025, Wednesdays at 20:00. -/
def program : Course :=
  { id := "p", organizationId := some "org", instructorId := some "t", parentCourseId := none
    title := "Web", description := none, posterUrl := none, code := none, category := none
    level := none
    startDate := some 1736121600000
    durationWeeks := some 1
    meetingDays := daysColumn [1, 3]
    meetingTime := some "18:00"
    meetingTimesByDay := .obj [("3", .str "20:00")]
    timezone := some "Africa/Lagos"
    scheduleUpdatedAt := none, instantClassAssessment := true, pluginKeys := .null }

def admin : JwtPayload := ⟨"a", .orgAdmin, "Ada", some "org", none, none⟩
def db : Db := ⟨[program], [], []⟩
def env : Env := ⟨1735700000000, fun _ => none, "b", fun _ => true⟩
def evening : CreateBatchDto := ⟨some "Evening", none, none, none, none, none, none, none⟩

/-- The row of the batch that the dto sets nothing of. -/
def batch : Course := batchRow env "org" program evening program.startDate

theorem batch_created : createBatch env db admin "p" evening = .ok batch := rfl

end Example

open Example in
theorem evening_cadence :
    ∃ program, db.course "p" = some program ∧
      (listOccurrences Schedule.Example.lagosZones batch.schedule =
          listOccurrences Schedule.Example.lagosZones (inherited env program evening) ↔
        KeepsTimes Schedule.Example.lagosZones (inherited env program evening) fun _ => none) :=
  batch_cadence batch_created Schedule.Example.lagosZones

open Example in
theorem late_wednesday_lost :
    ¬ ∀ (env : Env) (db : Db) (user : JwtPayload) (programId : CourseId) (dto : CreateBatchDto)
        (batch : Course) (tzdb : String → Option Zone),
        createBatch env db user programId dto = .ok batch →
        ∃ program, db.course programId = some program ∧
          listOccurrences tzdb batch.schedule = listOccurrences tzdb (inherited env program dto) := by
  intro h
  obtain ⟨found, hfound, heq⟩ := h env db admin "p" evening batch Schedule.Example.lagosZones batch_created
  have hprogram : found = program := (Option.some.inj hfound).symm
  subst hprogram
  have hbatch : listOccurrences Schedule.Example.lagosZones batch.schedule =
      .ok [⟨"2025-01-06", 1736182800000⟩, ⟨"2025-01-08", 1736355600000⟩] := by decide +kernel
  have hprogram : listOccurrences Schedule.Example.lagosZones (inherited env program evening) =
      .ok [⟨"2025-01-06", 1736182800000⟩, ⟨"2025-01-08", 1736362800000⟩] := by decide +kernel
  rw [hbatch, hprogram] at heq
  exact absurd (Except.ok.inj heq) (by decide)

end Livetich.Courses
