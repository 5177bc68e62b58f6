/-
Programs (`CoursesService.createCourse`), and the codes that reach a course: a dto's code is letters
and digits, and it is stored in upper case.
-/
import Livetich.Courses.Batch
import Livetich.Courses.Update

namespace Livetich.Courses

open Livetich.Js Livetich.Lib Livetich.Schedule

/-! ## Creating a program -/

structure CreateCourseDto where
  title : String
  description : Option String
  instructorId : Option UserId
  code : Option String
  category : Option String
  level : Option String
  startDate : Option String
  durationWeeks : Option Int
  meetingDays : Option (List Int)
  meetingTime : Option String
  meetingTimesByDay : Option (List (String × Json))
  timezone : Option String
  pluginKeys : Option (List String)

/-- The row `createCourse` writes. -/
def courseRow (env : Env) (orgId : OrganizationId) (dto : CreateCourseDto) (startDate : Option Int) : Course where
  id := env.freshId
  organizationId := some orgId
  instructorId := dto.instructorId
  parentCourseId := none
  title := dto.title
  description := dto.description
  posterUrl := none
  code := normalizeCode dto.code
  category := dto.category
  level := dto.level
  startDate := startDate
  durationWeeks := dto.durationWeeks
  meetingDays := (dto.meetingDays.map fun days => daysColumn (sortDays days)).getD .null
  meetingTime := dto.meetingTime
  meetingTimesByDay := (dto.meetingTimesByDay.map cleanTimesByDay).getD .null
  timezone := dto.timezone
  scheduleUpdatedAt := none
  instantClassAssessment := true
  pluginKeys := (dto.pluginKeys.map fun keys => Json.arr (keys.map .str)).getD .null

def createCourse (env : Env) (db : Db) (user : JwtPayload) (dto : CreateCourseDto) : Result Course := do
  let orgId ← orgOf user
  whenGiven dto.instructorId (assertOrgInstructor db orgId)
  whenGiven (normalizeCode dto.code) fun code => assertCodeAvailable db orgId none code none
  let startDate ← writeDate env (dto.startDate.elim .absent .value) none
  let course := courseRow env orgId dto startDate
  require (env.commits course = true) .internal
  return course

/-! ## Codes -/

/-- The rules of the dtos for a code: `MinLength(2)`, `MaxLength(16)` and `/^[A-Za-z0-9]+$/`. -/
def matchesCode (code : String) : Bool :=
  2 ≤ code.length && code.length ≤ 16 && code.toList.all Char.isAlphanum

/-- Letters and digits in upper case. -/
def isPlainCode (code : String) : Bool := code.toList.all fun c => c.isAlphanum && c.toUpper == c

/-- Letters and digits are ASCII. -/
theorem isAlphanum_lt {c : Char} (h : c.isAlphanum = true) : c.toNat < 128 := by
  have hcases : ((decide (65 ≤ c.val ∧ c.val ≤ 90) || decide (97 ≤ c.val) && decide (c.val ≤ 122)) ||
      decide (48 ≤ c.val) && decide (c.val ≤ 57)) = true := h
  have h' : ((65 ≤ c.val ∧ c.val ≤ 90) ∨ (97 ≤ c.val ∧ c.val ≤ 122)) ∨ (48 ≤ c.val ∧ c.val ≤ 57) := by
    simpa using hcases
  simp only [UInt32.le_iff_toNat_le] at h'
  show c.val.toNat < 128
  rcases h' with (⟨-, h'⟩ | ⟨-, h'⟩) | ⟨-, h'⟩ <;> exact Nat.lt_of_le_of_lt h' (by decide)

theorem isAlphanum_case {c : Char} (h : c.isAlphanum = true) :
    c.toUpper.isAlphanum = true ∧ c.toUpper.toUpper = c.toUpper ∧ c.toLower.toUpper = c.toUpper := by
  have hlt := isAlphanum_lt h
  have hall : ∀ n : Fin 128, (Char.ofNat n).isAlphanum = true → (Char.ofNat n).toUpper.isAlphanum = true ∧
      (Char.ofNat n).toUpper.toUpper = (Char.ofNat n).toUpper ∧
      (Char.ofNat n).toLower.toUpper = (Char.ofNat n).toUpper := by decide
  have hc := hall ⟨c.toNat, hlt⟩
  simp only [Char.ofNat_toNat] at hc
  exact hc h

theorem mem_of_mem_trim {cs : List Char} {c : Char} (h : c ∈ trim cs) : c ∈ cs := by
  unfold trim at h
  have hreversed := (List.dropWhile_suffix _).subset (List.mem_reverse.1 h)
  exact (List.dropWhile_suffix _).subset (List.mem_reverse.1 hreversed)

/-- What is stored of a code that the dto lets through. -/
theorem normalizeCode_plain {code : Option String} (h : ∀ c ∈ code, matchesCode c = true) :
    ∀ c ∈ normalizeCode code, isPlainCode c = true := by
  intro stored hstored
  obtain ⟨given, hgiven, rfl⟩ := Option.map_eq_some_iff.1 hstored
  have hmatches := h given (Option.filter_eq_some_iff.1 hgiven).1
  have hall := (Bool.and_eq_true_iff.1 hmatches).2
  refine List.all_eq_true.2 fun c hc => ?_
  have hmap : ((trimString given).toUpper).toList = (trim given.toList).map Char.toUpper := by
    unfold trimString String.toUpper
    rw [String.toList_map, String.toList_ofList]
  rw [hmap] at hc
  obtain ⟨d, hd, rfl⟩ := List.mem_map.1 hc
  obtain ⟨halnum, hupper, -⟩ := isAlphanum_case (List.all_eq_true.1 hall d (mem_of_mem_trim hd))
  rw [halnum, hupper, Bool.true_and, beq_self_eq_true]

def PlainCodes (courses : List Course) : Prop :=
  ∀ course ∈ courses, ∀ code ∈ course.code, isPlainCode code = true

theorem createCourse_plain {env : Env} {db : Db} {user : JwtPayload} {dto : CreateCourseDto} {course : Course}
    (h : createCourse env db user dto = .ok course) (hdto : ∀ c ∈ dto.code, matchesCode c = true)
    (hdb : PlainCodes db.courses) : PlainCodes (db.courses ++ [course]) := by
  unfold createCourse at h
  obtain ⟨orgId, -, h⟩ := bind_ok_iff.1 h
  obtain ⟨-, -, h⟩ := bind_ok_iff.1 h
  obtain ⟨-, -, h⟩ := bind_ok_iff.1 h
  obtain ⟨startDate, -, h⟩ := bind_ok_iff.1 h
  obtain ⟨-, -, h⟩ := bind_ok_iff.1 h
  cases h
  intro c hc
  rcases List.mem_append.1 hc with hc | hc
  · exact hdb c hc
  · rw [List.mem_singleton.1 hc]
    exact normalizeCode_plain hdto

theorem createBatch_plain {env : Env} {db : Db} {user : JwtPayload} {programId : CourseId} {dto : CreateBatchDto}
    {batch : Course} (h : createBatch env db user programId dto = .ok batch)
    (hdto : ∀ c ∈ dto.code, matchesCode c = true) (hdb : PlainCodes db.courses) :
    PlainCodes (db.courses ++ [batch]) := by
  obtain ⟨⟨orgId, program, startDate, -, -, rfl⟩, -⟩ := createBatch_ok h
  intro c hc
  rcases List.mem_append.1 hc with hc | hc
  · exact hdb c hc
  · rw [List.mem_singleton.1 hc]
    exact normalizeCode_plain hdto

theorem writeCode_plain {db : Db} {course : Course} {f : Field String} {code : Option String}
    (h : writeCode db course f = .ok code) (hf : ∀ c ∈ f.write none, matchesCode c = true)
    (hcourse : ∀ c ∈ course.code, isPlainCode c = true) : ∀ c ∈ code, isPlainCode c = true := by
  have hnormal : normalizeCode (f.write none) = code → ∀ c ∈ code, isPlainCode c = true := by
    rintro rfl
    exact normalizeCode_plain hf
  unfold writeCode at h
  cases f with
  | absent =>
    cases h
    exact hcourse
  | null =>
    cases horg : course.organizationId with
    | none =>
      simp only [horg] at h
      obtain ⟨-, -, h⟩ := bind_ok_iff.1 h
      cases h
      exact hnormal rfl
    | some organizationId =>
      simp only [horg] at h
      obtain ⟨-, -, h⟩ := bind_ok_iff.1 h
      cases h
      exact hnormal rfl
  | value c =>
    cases horg : course.organizationId with
    | none =>
      simp only [horg] at h
      obtain ⟨-, -, h⟩ := bind_ok_iff.1 h
      cases h
      exact hnormal rfl
    | some organizationId =>
      simp only [horg] at h
      obtain ⟨-, -, h⟩ := bind_ok_iff.1 h
      cases h
      exact hnormal rfl

theorem updateCourse_plain {env : Env} {base : String} {db db' : Db} {user : JwtPayload} {id : CourseId}
    {dto : UpdateCourseDto} {mails : List ScheduleMail} (h : updateCourse env base db user id dto = .ok (db', mails))
    (hdto : ∀ c ∈ dto.code.write none, matchesCode c = true) (hdb : PlainCodes db.courses) :
    PlainCodes db'.courses := by
  unfold updateCourse at h
  obtain ⟨-, -, h⟩ := bind_ok_iff.1 h
  obtain ⟨course, hcourse, h⟩ := bind_ok_iff.1 h
  obtain ⟨code, hcode, h⟩ := bind_ok_iff.1 h
  obtain ⟨-, -, h⟩ := bind_ok_iff.1 h
  obtain ⟨startDate, -, h⟩ := bind_ok_iff.1 h
  obtain ⟨-, -, h⟩ := bind_ok_iff.1 h
  cases h
  have hrow : course ∈ db.courses := List.mem_of_find?_eq_some (found_ok hcourse)
  intro c hc
  obtain ⟨old, hold, rfl⟩ := List.mem_map.1 hc
  split
  · exact writeCode_plain hcode hdto (hdb course hrow)
  · exact hdb old hold

end Livetich.Courses
