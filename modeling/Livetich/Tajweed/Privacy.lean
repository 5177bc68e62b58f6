/-
What a student, or a recorder, is shown of the corrections of other students: `list`, `studentCorrections` and
`progress` of `TajweedService`, and `mine` of `HifzService`. The first three ask for the caller's own; the last
follows the links from the caller's recitations, which lead to corrections of the caller since that is how they are
stored. Rows come in the order of the table where the order asked for leaves it open.
-/
import Livetich.Tajweed.Marks

namespace Livetich.Tajweed.Privacy

open TransSys Livetich.Lib History Marks

/-! ## The database -/

structure SessionRow where
  id : SessionId
  courseId : CourseId
  sectionId : Option String

structure SectionRow where
  id : String
  courseId : CourseId

inductive HifzKind
  | newHifz
  | revision
  deriving DecidableEq

/-- A recitation with its other columns. -/
structure EntryRow where
  recitation : Recitation
  surahNumber : Nat
  ayahStart : Nat
  ayahEnd : Nat
  kind : HifzKind
  rating : Option Nat
  tajweed : Option String
  notes : Option String
  sessionId : Option SessionId
  recordedById : UserId
  recordedAt : Nat

structure TargetRow where
  id : String
  courseId : CourseId
  studentId : UserId
  surahNumber : Nat
  ayahStart : Nat
  ayahEnd : Nat
  dueAt : Option Nat
  note : Option String
  createdById : UserId
  createdAt : Nat

structure Database where
  site : Site
  names : UserId → String
  sessions : List SessionRow
  sections : List SectionRow
  entries : List EntryRow
  targets : List TargetRow
  /-- `assertCanManageCourse`. -/
  manages : JwtPayload → CourseId → Result Unit

def Database.annotations (d : Database) : List AnnotationRow := d.site.history.rows.entries.map (·.2)

/-! ## Checks -/

/-- `canManage`: a refusal is an answer, another error is not. -/
def canManage (d : Database) (user : JwtPayload) (courseId : CourseId) : Result Bool :=
  if user.role = .student then .ok false
  else match d.manages user courseId with
    | .ok () => .ok true
    | .error (.forbidden _) => .ok false
    | .error e => .error e

def assertEnrolled (d : Database) (courseId : CourseId) (studentId : UserId) : Result Unit :=
  ensure (d.site.enrolled.contains (courseId, studentId) = true)
    (.forbidden "That student is not enrolled in this course")

def resolveSection (d : Database) (courseId : CourseId) (sectionId : Option String) (sessionId : Option SessionId) :
    Result (Option String) := do
  let own ← match given sessionId with
    | none => pure none
    | some id => (orThrow (d.sessions.find? fun x => x.id == id && x.courseId == courseId)
        (.notFound "Session not found in this course")).map (·.sectionId)
  let found := sectionId.or own
  ensure ((given found).all (fun id => d.sections.any fun x => x.id == id && x.courseId == courseId) = true)
    (.notFound "Lesson not found in this course")
  return found

/-- `lessonScope`: the annotations of the section, and those made in the session when they are of no section;
`none` for the whole course. -/
def lessonScope (d : Database) (courseId : CourseId) (sectionId : Option String) (sessionId : Option SessionId) :
    Result (Option (AnnotationRow → Bool)) := do
  let found ← resolveSection d courseId sectionId sessionId
  if given found = none ∧ given sessionId = none then return none
  else return some fun row =>
    (given found).any (fun id => row.sectionId == some id) ||
      (given sessionId).any fun id => row.sessionId == some id && row.sectionId == none

/-! ## Reads -/

/-- `findMany` of the annotations that pass a test. -/
def findMany (d : Database) (test : AnnotationRow → Bool) (order : AnnotationRow → AnnotationRow → Bool) :
    List AnnotationRow :=
  (d.annotations.filter test).mergeSort order

def byPlace (a b : AnnotationRow) : Bool :=
  decide ([a.surahNumber, a.ayahNumber, a.createdAt] ≤ [b.surahNumber, b.ayahNumber, b.createdAt])

def newestFirst (a b : AnnotationRow) : Bool := b.createdAt ≤ a.createdAt

def oldestFirst (a b : AnnotationRow) : Bool := a.createdAt ≤ b.createdAt

def isLesson (courseId : CourseId) (row : AnnotationRow) : Bool := row.courseId == courseId && row.mode == .lesson

def isCorrection (courseId : CourseId) (row : AnnotationRow) : Bool :=
  row.courseId == courseId && row.mode == .studentCorrection

structure ListTajweedAnnotationsDto where
  sectionId : Option String
  sessionId : Option SessionId
  studentId : Option UserId

structure Listing where
  lesson : List TajweedAnnotation
  corrections : List TajweedAnnotation

/-- Whose corrections a listing shows. -/
def who (staff : Bool) (user : JwtPayload) (q : ListTajweedAnnotationsDto) : Option (AnnotationRow → Bool) :=
  if staff then
    match given q.studentId, given q.sessionId with
    | some student, _ => some fun row => row.studentId == some student
    | none, some session => some fun row => row.sessionId == some session
    | none, none => none
  else some fun row => row.studentId == some user.sub

def list (d : Database) (user : JwtPayload) (courseId : CourseId) (q : ListTajweedAnnotationsDto) :
    Result Listing := do
  let recorder := user.recorder.isSome
  ensure (recorder = true → user.recorder.map (·.sessionId) = q.sessionId)
    (.forbidden "Not the session this token films")
  let staff ← (if recorder then pure false else canManage d user courseId : Result Bool)
  if !staff && !recorder then assertEnrolled d courseId user.sub else pure ()
  let scope ← lessonScope d courseId q.sectionId q.sessionId
  let lesson := findMany d
    (fun row => isLesson courseId row && scope.all fun inScope => inScope row || row.kept) byPlace
  if recorder then return ⟨lesson.map toPublic, []⟩
  else do
    match staff, given q.studentId with
    | true, some student => assertEnrolled d courseId student
    | _, _ => pure ()
    let corrections := match who staff user q with
      | some mine => findMany d (fun row => isCorrection courseId row && mine row) newestFirst
      | none => []
    return ⟨lesson.map toPublic, corrections.map toPublic⟩

/-- Per rule, in the order they come: how many issues the teacher heard, and how many correct. -/
def tallyByRule (rows : List AnnotationRow) : List (String × Nat × Nat) :=
  let rules := rows.filterMap fun row => given row.content.rule
  rules.reverse.dedup.reverse.map fun rule =>
    let theirs := rows.filter fun row => row.content.rule == some rule
    (rule, theirs.countP (·.content.outcome == some .tajweedIssue),
      theirs.countP (·.content.outcome == some .correct))

structure StudentCorrections where
  corrections : List TajweedAnnotation
  byRule : List (String × Nat × Nat)

def studentCorrections (d : Database) (user : JwtPayload) (courseId : CourseId) (studentId : UserId) :
    Result StudentCorrections := do
  let staff ← canManage d user courseId
  ensure (staff = true ∨ studentId = user.sub) (.forbidden "You can only see your own corrections")
  assertEnrolled d courseId studentId
  let rows := findMany d (fun row => isCorrection courseId row && row.studentId == some studentId) newestFirst
  return ⟨rows.map toPublic, tallyByRule rows⟩

structure StudentProgress where
  student : UserId × String
  total : Nat
  lastAt : Option Nat
  byRule : List (String × Nat × Nat)
  byOutcome : List (TajweedOutcome × Nat)

/-- How often each outcome was recorded, in the order they come. -/
def tallyByOutcome (rows : List AnnotationRow) : List (TajweedOutcome × Nat) :=
  let outcomes := rows.filterMap (·.content.outcome)
  outcomes.reverse.dedup.reverse.map fun outcome => (outcome, outcomes.count outcome)

def progress (d : Database) (user : JwtPayload) (courseId : CourseId) : Result (List StudentProgress) := do
  let staff ← canManage d user courseId
  if !staff then assertEnrolled d courseId user.sub else pure ()
  let students := ((d.site.enrolled.filter fun e => e.1 == courseId && (staff || e.2 == user.sub)).map
    fun e => (e.2, d.names e.2)).mergeSort fun a b => a.2 ≤ b.2
  let rows := findMany d (fun row => isCorrection courseId row && (staff || row.studentId == some user.sub)) newestFirst
  return students.map fun student =>
    let theirs := rows.filter fun row => row.studentId == some student.1
    ⟨student, theirs.length, theirs.head?.map (·.createdAt), tallyByRule theirs, tallyByOutcome theirs⟩

/-! ## Recitations -/

/-- What a recitation shows of a correction heard in it. -/
structure CorrectionHeard where
  id : AnnotationId
  surahNumber : Nat
  ayahNumber : Nat
  rule : Option String
  customLabel : Option String
  outcome : Option TajweedOutcome
  note : Option String

def heard (row : AnnotationRow) : CorrectionHeard :=
  ⟨row.id, row.surahNumber, row.ayahNumber, row.content.rule, row.content.customLabel, row.content.outcome,
    row.content.note⟩

/-- The ayahs of ranges sorted by their start, each counted once. -/
def ayahsOf (start stop : Nat) : List (Nat × Nat) → Int
  | [] => (stop : Int) - start + 1
  | (s, e) :: rest =>
    if s ≤ stop + 1 then ayahsOf start (max stop e) rest else (stop : Int) - start + 1 + ayahsOf s e rest

structure Summary where
  ayahsMemorized : Int
  surahsTouched : Nat
  lastRecitedAt : Option Nat

def summarize (entries : List EntryRow) : Summary :=
  let memorized := entries.filter (·.kind == .newHifz)
  let surahs := (memorized.map (·.surahNumber)).dedup
  let ayahs (surah : Nat) : Int :=
    match ((memorized.filter (·.surahNumber == surah)).map fun e => (e.ayahStart, e.ayahEnd)).mergeSort
        fun a b => a.1 ≤ b.1 with
    | [] => 0
    | (start, stop) :: rest => ayahsOf start stop rest
  ⟨(surahs.map ayahs).sum, surahs.length, entries.head?.map (·.recordedAt)⟩

structure Mine where
  targets : List TargetRow
  entries : List (EntryRow × List CorrectionHeard)
  progress : Summary

/-- A target without a day comes before those with one. -/
def byDueDay (a b : TargetRow) : Bool :=
  let key (t : TargetRow) := [(t.dueAt.map (· + 1)).getD 0, t.createdAt]
  decide (key a ≤ key b)

/-- `HifzService.mine`. -/
def mine (d : Database) (user : JwtPayload) (courseId : CourseId) : Result Mine := do
  assertEnrolled d courseId user.sub
  let targets := (d.targets.filter fun t => t.courseId == courseId && t.studentId == user.sub).mergeSort byDueDay
  let entries := (d.entries.filter fun e =>
    e.recitation.courseId == courseId && e.recitation.studentId == user.sub).mergeSort
      fun a b => b.recordedAt ≤ a.recordedAt
  return ⟨targets, entries.map fun e =>
    (e, (findMany d (fun row => row.hifzEntryId == some e.recitation.id) oldestFirst).map heard), summarize entries⟩

/-! ## Databases that differ in hidden rows -/

/-- The annotations are the same but for hidden ones, and the other tables are the same. -/
structure SameBut (hidden : AnnotationRow → Bool) (d d' : Database) : Prop where
  annotations : (d.annotations.filter fun row => !hidden row) = d'.annotations.filter fun row => !hidden row
  enrolled : d.site.enrolled = d'.site.enrolled
  recitations : d.site.recitations = d'.site.recitations
  names : d.names = d'.names
  sessions : d.sessions = d'.sessions
  sections : d.sections = d'.sections
  entries : d.entries = d'.entries
  targets : d.targets = d'.targets
  manages : d.manages = d'.manages

/-- A correction of someone else. -/
def ofOthers (student : UserId) (row : AnnotationRow) : Bool :=
  row.mode == .studentCorrection && row.studentId != some student

def anyCorrection (row : AnnotationRow) : Bool := row.mode == .studentCorrection

/-- The service got there from a start without annotations, by calls that were accepted or refused. -/
structure Reachable (quran : Quran) (d : Database) : Prop where
  run : ∃ s₀ es, Marks.Initial s₀ ∧ (s₀.recitations.map (·.id)).Nodup ∧
    run (Marks.step quran) s₀ es = some d.site
  entries : d.entries.map (·.recitation) = d.site.recitations

variable {quran : Quran} {hidden : AnnotationRow → Bool} {d d' : Database}

/-- A read of rows none of which is hidden. -/
theorem findMany_same (h : SameBut hidden d d') {test : AnnotationRow → Bool}
    (hd : ∀ row ∈ d.annotations, test row = true → hidden row = false)
    (hd' : ∀ row ∈ d'.annotations, test row = true → hidden row = false)
    (order : AnnotationRow → AnnotationRow → Bool) : findMany d test order = findMany d' test order := by
  have hshown : ∀ l : List AnnotationRow, (∀ row ∈ l, test row = true → hidden row = false) →
      l.filter test = (l.filter fun row => !hidden row).filter test := fun l hl => by
    rw [List.filter_filter]
    refine List.filter_congr fun row hrow => ?_
    cases htest : test row with
    | false => rfl
    | true => rw [hl row hrow htest]; rfl
  unfold findMany
  rw [hshown _ hd, hshown _ hd', h.annotations]

/-! ## The links -/

/-- A step leaves the recitations with ids of their own. -/
theorem recitations_nodup {s s' : Site} {ev : Marks.Event} (hs : (s.recitations.map (·.id)).Nodup)
    (h : Marks.step quran s ev = some s') : (s'.recitations.map (·.id)).Nodup := by
  cases ev with
  | call ev =>
    unfold Marks.step at h
    dsimp only at h
    split at h
    · obtain ⟨history, -, rfl⟩ := Option.map_eq_some_iff.1 h
      exact hs
    · cases h
  | register user =>
    unfold Marks.step at h
    dsimp only at h
    split at h
    · split at h
      · cases h
      · cases h
        exact hs
    · cases h
  | enroll courseId studentId =>
    unfold Marks.step at h
    dsimp only at h
    split at h
    · cases h
      exact hs
    · cases h
  | unenroll courseId studentId =>
    unfold Marks.step at h
    dsimp only at h
    split at h
    · cases h
      exact hs
    · cases h
  | recite r =>
    unfold Marks.step at h
    dsimp only at h
    split at h
    · split at h
      · cases h
      · rename_i hnew
        cases h
        refine List.nodup_cons.2 ⟨fun hmem => hnew (.inr ?_), hs⟩
        obtain ⟨q, hq, hid⟩ := List.mem_map.1 hmem
        exact List.any_eq_true.2 ⟨q, hq, beq_iff_eq.2 hid⟩
    · cases h
  | erase id =>
    unfold Marks.step at h
    dsimp only at h
    split at h
    · cases h
      exact hs.sublist (List.filter_sublist.map _)
    · cases h

/-- What is linked to a recitation is a correction of the one who recited. -/
theorem linked_own (hd : Reachable quran d) {e : EntryRow} (he : e ∈ d.entries) {row : AnnotationRow}
    (hrow : row ∈ d.annotations) (hlinked : row.hifzEntryId = some e.recitation.id) :
    row.studentId = some e.recitation.studentId := by
  obtain ⟨s₀, es, hinit, hnodup, hrun⟩ := hd.run
  obtain ⟨⟨id, r⟩, hmem, rfl⟩ := List.mem_map.1 hrow
  have hwf := marks_wellFormed hinit hrun id r (Table.get_of_mem hmem)
  obtain ⟨q, hq, hid, -, hstudent⟩ := hwf.recitation _ hlinked
  have hown : e.recitation ∈ d.site.recitations := hd.entries ▸ List.mem_map_of_mem he
  have hunique : (d.site.recitations.map (·.id)).Nodup :=
    run_keeps (I := fun s : Site => (s.recitations.map (·.id)).Nodup) (fun _ _ _ => recitations_nodup) hnodup hrun
  rw [hstudent, List.inj_on_of_nodup_map hunique hq hown hid]

/-! ## What a student is shown -/

theorem ofOthers_own {row : AnnotationRow} {student : UserId} (h : row.studentId = some student) :
    ofOthers student row = false := by
  unfold ofOthers
  rw [h, bne_self_eq_false, Bool.and_false]

theorem ofOthers_lesson {row : AnnotationRow} {courseId : CourseId} (student : UserId)
    (h : isLesson courseId row = true) : ofOthers student row = false := by
  have hmode := beq_iff_eq.1 (Bool.and_eq_true_iff.1 h).2
  unfold ofOthers
  rw [hmode]
  rfl

theorem resolveSection_same (h : SameBut hidden d d') (courseId : CourseId) (sectionId sessionId : Option String) :
    resolveSection d courseId sectionId sessionId = resolveSection d' courseId sectionId sessionId := by
  unfold resolveSection
  rw [h.sessions, h.sections]

theorem lessonScope_same (h : SameBut hidden d d') (courseId : CourseId) (sectionId sessionId : Option String) :
    lessonScope d courseId sectionId sessionId = lessonScope d' courseId sectionId sessionId := by
  unfold lessonScope
  rw [resolveSection_same h]

theorem assertEnrolled_same (h : SameBut hidden d d') : assertEnrolled d = assertEnrolled d' := by
  funext courseId studentId
  unfold assertEnrolled
  rw [h.enrolled]

theorem canManage_student {user : JwtPayload} (hrole : user.role = .student) (d : Database) (courseId : CourseId) :
    canManage d user courseId = .ok false := by
  unfold canManage
  rw [if_pos hrole]

theorem list_same {user : JwtPayload} (hrole : user.role = .student) (h : SameBut (ofOthers user.sub) d d')
    (courseId : CourseId) (q : ListTajweedAnnotationsDto) : list d user courseId q = list d' user courseId q := by
  have hlesson : ∀ scope : Option (AnnotationRow → Bool),
      findMany d (fun row => isLesson courseId row && scope.all fun inScope => inScope row || row.kept) byPlace =
        findMany d' (fun row => isLesson courseId row && scope.all fun inScope => inScope row || row.kept) byPlace :=
    fun scope => findMany_same h (fun row _ hrow => ofOthers_lesson _ (Bool.and_eq_true_iff.1 hrow).1)
      (fun row _ hrow => ofOthers_lesson _ (Bool.and_eq_true_iff.1 hrow).1) byPlace
  have hown : findMany d (fun row => isCorrection courseId row && row.studentId == some user.sub) newestFirst =
      findMany d' (fun row => isCorrection courseId row && row.studentId == some user.sub) newestFirst :=
    findMany_same h (fun row _ hrow => ofOthers_own (beq_iff_eq.1 (Bool.and_eq_true_iff.1 hrow).2))
      (fun row _ hrow => ofOthers_own (beq_iff_eq.1 (Bool.and_eq_true_iff.1 hrow).2)) newestFirst
  unfold list
  simp only [canManage_student hrole, assertEnrolled_same h, lessonScope_same h, hlesson]
  cases user.recorder.isSome with
  | true => rfl
  | false => simp only [who, Bool.false_eq_true, if_false, ok_bind, hown]

theorem studentCorrections_same {user : JwtPayload} (hrole : user.role = .student)
    (h : SameBut (ofOthers user.sub) d d') (courseId : CourseId) (studentId : UserId) :
    studentCorrections d user courseId studentId = studentCorrections d' user courseId studentId := by
  unfold studentCorrections
  simp only [canManage_student hrole, assertEnrolled_same h, ok_bind, Bool.false_eq_true, false_or]
  by_cases hown : studentId = user.sub
  · rw [hown, findMany_same h (fun row _ hrow => ofOthers_own (beq_iff_eq.1 (Bool.and_eq_true_iff.1 hrow).2))
      fun row _ hrow => ofOthers_own (beq_iff_eq.1 (Bool.and_eq_true_iff.1 hrow).2)]
  · unfold ensure
    rw [if_neg hown]
    rfl

theorem progress_same {user : JwtPayload} (hrole : user.role = .student) (h : SameBut (ofOthers user.sub) d d')
    (courseId : CourseId) : progress d user courseId = progress d' user courseId := by
  unfold progress
  simp only [canManage_student hrole, assertEnrolled_same h, ok_bind, Bool.false_or, h.enrolled, h.names]
  rw [findMany_same h (fun row _ hrow => ofOthers_own (beq_iff_eq.1 (Bool.and_eq_true_iff.1 hrow).2))
    fun row _ hrow => ofOthers_own (beq_iff_eq.1 (Bool.and_eq_true_iff.1 hrow).2)]

/-- The links of the caller's recitations lead to the caller's corrections. -/
theorem mine_same (hd : Reachable quran d) (hd' : Reachable quran d') {user : JwtPayload}
    (h : SameBut (ofOthers user.sub) d d') (courseId : CourseId) : mine d user courseId = mine d' user courseId := by
  unfold mine
  simp only [assertEnrolled_same h, h.targets, h.entries]
  congr 1
  funext u
  refine congrArg (fun x => Except.ok (Mine.mk _ x _)) (List.map_congr_left fun e he => ?_)
  rw [List.mem_mergeSort] at he
  obtain ⟨he, hown⟩ := List.mem_filter.1 he
  have hown : e.recitation.studentId = user.sub := beq_iff_eq.1 (Bool.and_eq_true_iff.1 hown).2
  have hlinked : ∀ {x : Database}, Reachable quran x → e ∈ x.entries → ∀ row ∈ x.annotations,
      (row.hifzEntryId == some e.recitation.id) = true → ofOthers user.sub row = false := fun hx hex row hrow hrid =>
    ofOthers_own (hown ▸ linked_own hx hex hrow (beq_iff_eq.1 hrid))
  rw [findMany_same h (hlinked hd (h.entries ▸ he)) (hlinked hd' he)]

theorem list_recorder {user : JwtPayload} (hrecorder : user.recorder.isSome = true) (h : SameBut anyCorrection d d')
    (courseId : CourseId) (q : ListTajweedAnnotationsDto) : list d user courseId q = list d' user courseId q := by
  have hshown : ∀ {row : AnnotationRow} {inScope : Bool}, (isLesson courseId row && inScope) = true →
      anyCorrection row = false := fun hrow => by
    have hlesson := (Bool.and_eq_true_iff.1 hrow).1
    have hmode := beq_iff_eq.1 (Bool.and_eq_true_iff.1 hlesson).2
    unfold anyCorrection
    rw [hmode]
    rfl
  have hlesson : ∀ scope : Option (AnnotationRow → Bool),
      findMany d (fun row => isLesson courseId row && scope.all fun inScope => inScope row || row.kept) byPlace =
        findMany d' (fun row => isLesson courseId row && scope.all fun inScope => inScope row || row.kept) byPlace :=
    fun scope => findMany_same h (fun row _ hrow => hshown hrow) (fun row _ hrow => hshown hrow) byPlace
  unfold list
  simp only [lessonScope_same h, hlesson]
  rw [hrecorder]
  rfl

/-- Databases that differ in the corrections of others are the same to a student, and databases that differ in any
corrections are the same to a recorder. -/
theorem corrections_private (hd : Reachable quran d) (hd' : Reachable quran d') (user : JwtPayload)
    (courseId : CourseId) :
    (user.role = .student → SameBut (ofOthers user.sub) d d' →
      (∀ q, list d user courseId q = list d' user courseId q) ∧
      progress d user courseId = progress d' user courseId ∧
      (∀ studentId, studentCorrections d user courseId studentId = studentCorrections d' user courseId studentId) ∧
      mine d user courseId = mine d' user courseId) ∧
    (user.recorder.isSome = true → SameBut anyCorrection d d' →
      ∀ q, list d user courseId q = list d' user courseId q) := by
  constructor
  · intro hrole hsame
    exact ⟨list_same hrole hsame courseId, progress_same hrole hsame courseId,
      studentCorrections_same hrole hsame courseId, mine_same hd hd' hsame courseId⟩
  · exact fun hrecorder hsame => list_recorder hrecorder hsame courseId

namespace Example

def aisha : JwtPayload := ⟨"aisha", .student, "Aisha", some "acme", none, none⟩

/-- The recitation of bilal, and the tables beside it. -/
def database (s : Site) : Database where
  site := s
  names := fun user => user
  sessions := [⟨"monday", "tajweed-1", none⟩]
  sections := []
  entries := [⟨Marks.Example.recitation, 2, 1, 5, .newHifz, some 4, none, none, some "monday", "zayd", 0⟩]
  targets := []
  manages := fun _ _ => .error (.forbidden "Not your course")

/-- What happened before bilal was corrected, and all that happened. -/
def before : List Marks.Event :=
  [.register "bilal", .enroll "tajweed-1" "bilal", .recite Marks.Example.recitation]

theorem database_reachable {s : Site} {es : List Marks.Event}
    (hrun : run (Marks.step Marks.Example.twoWords) Marks.Example.empty es = some s)
    (hrecitations : s.recitations = [Marks.Example.recitation]) : Reachable Marks.Example.twoWords (database s) :=
  ⟨⟨_, es, Marks.Example.empty_initial, List.nodup_nil, hrun⟩, hrecitations.symm⟩

end Example

open Example in
/-- Bilal has been corrected, or has not been: aisha is shown the same. -/
theorem correction_unseen : ∃ d d', d.annotations.length = 1 ∧ d'.annotations = [] ∧
    (∀ q, list d aisha "tajweed-1" q = list d' aisha "tajweed-1" q) ∧
    mine d aisha "tajweed-1" = mine d' aisha "tajweed-1" := by
  have hrun : (run (Marks.step Marks.Example.twoWords) Marks.Example.empty Marks.Example.sitting).map
      (fun s => (s.enrolled, s.recitations, (database s).annotations.length,
        ((database s).annotations.filter fun row => !ofOthers "aisha" row).length)) =
      some ([("tajweed-1", "bilal")], [Marks.Example.recitation], 1, 0) := by decide
  have hrun' : (run (Marks.step Marks.Example.twoWords) Marks.Example.empty before).map
      (fun s => (s.enrolled, s.recitations, (database s).annotations.length)) =
      some ([("tajweed-1", "bilal")], [Marks.Example.recitation], 0) := by decide
  obtain ⟨s, hs, hseen⟩ := Option.map_eq_some_iff.1 hrun
  obtain ⟨s', hs', hseen'⟩ := Option.map_eq_some_iff.1 hrun'
  simp only [Prod.mk.injEq] at hseen hseen'
  obtain ⟨henrolled, hrecitations, hlength, hshown⟩ := hseen
  obtain ⟨henrolled', hrecitations', hlength'⟩ := hseen'
  have hnil := List.length_eq_zero_iff.1 hlength'
  have hsame : SameBut (ofOthers aisha.sub) (database s) (database s') :=
    ⟨by rw [hnil]; exact List.length_eq_zero_iff.1 hshown, henrolled.trans henrolled'.symm,
      hrecitations.trans hrecitations'.symm, rfl, rfl, rfl, rfl, rfl, rfl⟩
  obtain ⟨hlist, -, -, hmine⟩ := (corrections_private (database_reachable hs hrecitations)
    (database_reachable hs' hrecitations') aisha "tajweed-1").1 rfl hsame
  exact ⟨database s, database s', hlength, hnil, hlist, hmine⟩

end Livetich.Tajweed.Privacy
