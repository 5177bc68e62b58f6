/-
The content of a new batch: the transaction of `createBatch`, with `snapshotProgramContent`, over the
rows it reads and writes. A snapshot copies the program's sections, its active questions, its
assignments and its documents; what refers to a section refers in the copy to the section's copy.

The calls to the database are numbered in the order they are made; a world says of each whether it
fails, what the time is, in which order a query lists its rows, and which ids a write gives. An id
that is taken makes the write fail. A transaction that does not commit leaves the rows as they were.
-/
import Mathlib.Data.List.Sort
import Livetich.Courses.Batch
import Livetich.Lib.Table

namespace Livetich.Courses.Snapshot

open Livetich.Js (Json)
open Livetich.Lib (Table)

/-! ## Rows -/

/-- A generated id is never empty, and so is truthy. -/
abbrev SectionId := { s : String // s ≠ "" }

abbrev QuestionId := String
abbrev AssignmentId := String
abbrev DocumentId := String

structure Section where
  courseId : CourseId
  order : Int
  title : String
  description : Option String

structure AssessmentQuestion where
  courseId : CourseId
  sectionId : SectionId
  body : String
  options : Json
  correctIndex : Int
  active : Bool
  createdById : UserId
  createdAt : Int

structure Assignment where
  courseId : CourseId
  sectionId : Option SectionId
  sessionId : Option SessionId
  groupId : Option String
  title : String
  instructions : Option String
  dueAt : Option Int
  maxPoints : Option Int
  createdById : UserId
  createdAt : Int

structure CourseDocument where
  courseId : CourseId
  filename : String
  storageKey : String
  mimeType : String
  charCount : Int
  extractedText : String
  createdById : UserId
  createdAt : Int

structure Rows where
  db : Db
  sections : Table SectionId Section
  questions : Table QuestionId AssessmentQuestion
  assignments : Table AssignmentId Assignment
  documents : Table DocumentId CourseDocument

structure World where
  fails : Nat → Bool
  now : Nat → Int
  sectionId : Nat → SectionId
  /-- The id of a row of a `createMany`. -/
  rowId : Nat → Nat → String
  listed : (α : Type) → Nat → List α → List α
  perm : ∀ (α : Type) (n : Nat) (rows : List α), (listed α n rows).Perm rows

/-- A transaction under way. -/
structure Tx where
  calls : Nat
  rows : Rows

/-! ## The copies -/

section

variable (w : World)

/-- `findMany`. -/
def findMany {κ ρ : Type} (t : Tx) (table : Table κ ρ) (p : ρ → Bool) : Option (List (κ × ρ)) :=
  if w.fails t.calls then none else some (w.listed (κ × ρ) t.calls (table.entries.filter fun e => p e.2))

def Tx.next (t : Tx) : Tx := { t with calls := t.calls + 1 }

def createSection (t : Tx) (row : Section) : Option Tx :=
  if w.fails t.calls then none
  else (t.rows.sections.create (w.sectionId t.calls) row).map fun sections =>
    { t.next with rows := { t.rows with sections := sections } }

/-- A section's row in the batch. -/
def copySection (toCourseId : CourseId) (s : Section) : Section where
  courseId := toCourseId
  order := s.order
  title := s.title
  description := s.description

/-- The loop over the sections, and the `sectionIdMap` it fills. -/
def copySections (toCourseId : CourseId) : Tx → List (SectionId × Section) → Option (List (SectionId × SectionId) × Tx)
  | t, [] => some ([], t)
  | t, s :: sections => (createSection w t (copySection toCourseId s.2)).bind fun t' =>
    (copySections toCourseId t' sections).map fun r => ((s.1, w.sectionId t.calls) :: r.1, r.2)

/-- `sectionIdMap.get(id)`. -/
def lookup (sectionIdMap : List (SectionId × SectionId)) (id : SectionId) : Option SectionId :=
  (sectionIdMap.find? fun p => p.1 = id).map (·.2)

/-- The rows of a `createMany`, with their ids. -/
def numbered {ρ : Type} (n : Nat) (rows : List ρ) : List (String × ρ) := rows.zipIdx.map fun p => (w.rowId n p.2, p.1)

/-- `createMany`, unless `found` is empty. -/
def createMany {ρ : Type} (t : Tx) (table : Table String ρ) (found : Bool) (rows : List ρ) : Option (Table String ρ) :=
  if !found then some table
  else if w.fails t.calls then none
  else table.createMany (numbered w t.calls rows)

/-- A question's row in the batch; an orphan is passed over. -/
def copyQuestion (toCourseId : CourseId) (sectionIdMap : List (SectionId × SectionId)) (now : Int)
    (q : AssessmentQuestion) : Option AssessmentQuestion :=
  (lookup sectionIdMap q.sectionId).map fun sectionId =>
    { q with courseId := toCourseId, sectionId := sectionId, createdAt := now }

def copyAssignment (toCourseId : CourseId) (sectionIdMap : List (SectionId × SectionId)) (now : Int)
    (a : Assignment) : Assignment :=
  { a with
    courseId := toCourseId
    sectionId := a.sectionId.bind (lookup sectionIdMap)
    sessionId := none
    groupId := none
    createdAt := now }

def copyDocument (toCourseId : CourseId) (now : Int) (d : CourseDocument) : CourseDocument :=
  { d with courseId := toCourseId, createdAt := now }

def copyQuestions (fromCourseId toCourseId : CourseId) (sectionIdMap : List (SectionId × SectionId)) (t : Tx) :
    Option Tx :=
  (findMany w t t.rows.questions fun q => q.courseId == fromCourseId && q.active).bind fun found =>
    (createMany w t.next t.rows.questions (!found.isEmpty)
      (found.filterMap fun e => copyQuestion toCourseId sectionIdMap (w.now t.next.calls) e.2)).map fun questions =>
      { t.next.next with rows := { t.rows with questions := questions } }

def copyAssignments (fromCourseId toCourseId : CourseId) (sectionIdMap : List (SectionId × SectionId)) (t : Tx) :
    Option Tx :=
  (findMany w t t.rows.assignments fun a => a.courseId == fromCourseId).bind fun found =>
    (createMany w t.next t.rows.assignments (!found.isEmpty)
      (found.map fun e => copyAssignment toCourseId sectionIdMap (w.now t.next.calls) e.2)).map fun assignments =>
      { t.next.next with rows := { t.rows with assignments := assignments } }

def copyDocuments (fromCourseId toCourseId : CourseId) (t : Tx) : Option Tx :=
  (findMany w t t.rows.documents fun d => d.courseId == fromCourseId).bind fun found =>
    (createMany w t.next t.rows.documents (!found.isEmpty)
      (found.map fun e => copyDocument toCourseId (w.now t.next.calls) e.2)).map fun documents =>
      { t.next.next with rows := { t.rows with documents := documents } }

def snapshotProgramContent (t : Tx) (fromCourseId toCourseId : CourseId) : Option Tx :=
  (findMany w t t.rows.sections fun s => s.courseId == fromCourseId).bind fun found =>
    (copySections w toCourseId t.next (found.insertionSort fun a b => a.2.order ≤ b.2.order)).bind fun r =>
      (copyQuestions w fromCourseId toCourseId r.1 r.2).bind fun t =>
        (copyAssignments w fromCourseId toCourseId r.1 t).bind fun t =>
          copyDocuments w fromCourseId toCourseId t

/-! ## The batch -/

/-- The rows once the transaction has committed. -/
def transaction (rows : Rows) (programId : CourseId) (batch : Course) : Option Rows :=
  if w.fails 1 || (rows.db.course batch.id).isSome then none
  else
    let t : Tx := ⟨2, { rows with db := { rows.db with courses := rows.db.courses ++ [batch] } }⟩
    (snapshotProgramContent w t programId batch.id).bind fun t => if w.fails t.calls then none else some t.rows

/-- `createBatch`: the rows after it, and its answer. Call 0 stands for the reads before the transaction. -/
def createBatch (env : Env) (rows : Rows) (user : JwtPayload) (programId : CourseId) (dto : CreateBatchDto) :
    Rows × Result Course :=
  if w.fails 0 then (rows, .error .internal)
  else
    let committed := transaction w rows programId
    let env := { env with commits := fun batch => (committed batch).isSome }
    match Courses.createBatch env rows.db user programId dto with
    | .ok batch => ((committed batch).getD rows, .ok batch)
    | .error e => (rows, .error e)

end

/-! ## What the copies are -/

/-- Rows are appended, each under an id of its own. -/
def Appends {ρ : Type} (t t' : Table String ρ) (rows : List ρ) : Prop :=
  ∃ new, t'.entries = t.entries ++ new ∧ new.map (·.2) = rows

variable {w : World}

theorem findMany_perm {κ ρ : Type} {t : Tx} {table : Table κ ρ} {p : ρ → Bool} {l : List (κ × ρ)}
    (h : findMany w t table p = some l) : l.Perm (table.entries.filter fun e => p e.2) := by
  unfold findMany at h
  split at h
  · cases h
  · cases h
    exact w.perm ..

theorem map_numbered {ρ : Type} (n : Nat) (rows : List ρ) : (numbered w n rows).map (·.2) = rows := by
  unfold numbered
  rw [List.map_map]
  exact List.zipIdx_map_fst 0 rows

/-- The copies of what was found are appended, also where nothing was and nothing is written. -/
theorem createMany_appends {α ρ : Type} {t : Tx} {table u : Table String ρ} {l : List α} {copy : α → ρ}
    (h : createMany w t table (!l.isEmpty) (l.map copy) = some u) : Appends table u (l.map copy) := by
  unfold createMany at h
  split at h
  · rename_i hempty
    have hl : l = [] := by simpa using hempty
    cases h
    rw [hl]
    exact ⟨[], (List.append_nil _).symm, rfl⟩
  · split at h
    · cases h
    · exact ⟨_, Table.entries_createMany h, map_numbered ..⟩

/-- The map has the copy of each section, and the copies are appended in order. -/
theorem copySections_spec {toCourseId : CourseId} : ∀ {sections : List (SectionId × Section)} {t t' : Tx}
    {m : List (SectionId × SectionId)}, copySections w toCourseId t sections = some (m, t') →
      m.map (·.1) = sections.map (·.1) ∧
      (∀ copyOf : SectionId → SectionId, (∀ p ∈ m, copyOf p.1 = p.2) →
        t'.rows.sections.entries = t.rows.sections.entries ++
          sections.map fun s => (copyOf s.1, copySection toCourseId s.2)) ∧
      t'.rows = { t.rows with sections := t'.rows.sections }
  | [], t, t', m, h => by
    cases h
    exact ⟨rfl, fun _ _ => (List.append_nil _).symm, rfl⟩
  | s :: sections, t, t', m, h => by
    obtain ⟨t₁, hcreate, h⟩ := Option.bind_eq_some_iff.1 h
    obtain ⟨⟨m₁, t₂⟩, hrest, heq⟩ := Option.map_eq_some_iff.1 h
    cases heq
    obtain ⟨hkeys, hentries, hframe⟩ := copySections_spec hrest
    unfold createSection at hcreate
    split at hcreate
    · cases hcreate
    · obtain ⟨table, htable, rfl⟩ := Option.map_eq_some_iff.1 hcreate
      refine ⟨by rw [List.map_cons, List.map_cons, hkeys], fun copyOf hcopy => ?_, hframe⟩
      have hfirst : copyOf s.1 = w.sectionId t.calls := hcopy _ List.mem_cons_self
      rw [hentries copyOf fun p hp => hcopy p (List.mem_cons_of_mem _ hp), List.map_cons, hfirst]
      dsimp only
      rw [Table.entries_create htable, List.append_assoc]
      rfl

theorem lookup_of_mem {m : List (SectionId × SectionId)} (h : (m.map (·.1)).Nodup) {p : SectionId × SectionId}
    (hp : p ∈ m) : lookup m p.1 = some p.2 :=
  @Table.get_of_mem _ _ _ ⟨m, h⟩ p.1 p.2 hp

/-! ## What a snapshot is -/

/-- The section is one of the program's. -/
def InProgram (s : Rows) (programId : CourseId) (sectionId : SectionId) : Prop :=
  ∃ row, s.sections.get sectionId = some row ∧ row.courseId = programId

/-- The batch is there, and the program's content is copied to it once, each section to the copy
`copyOf` gives. -/
structure Complete (s s' : Rows) (programId : CourseId) (batch : Course) (copyOf : SectionId → SectionId) : Prop where
  course : s'.db = { s.db with courses := s.db.courses ++ [batch] }
  sections : ∃ l : List (SectionId × Section), l.Perm (s.sections.entries.filter fun e => e.2.courseId == programId) ∧
    s'.sections.entries = s.sections.entries ++ l.map fun e => (copyOf e.1, copySection batch.id e.2)
  questions : ∃ (l : List (QuestionId × AssessmentQuestion)) (now : Int),
    l.Perm (s.questions.entries.filter fun e => e.2.courseId == programId && e.2.active) ∧
    Appends s.questions s'.questions (l.map fun e =>
      { e.2 with courseId := batch.id, sectionId := copyOf e.2.sectionId, createdAt := now })
  assignments : ∃ (l : List (AssignmentId × Assignment)) (now : Int),
    l.Perm (s.assignments.entries.filter fun e => e.2.courseId == programId) ∧
    Appends s.assignments s'.assignments (l.map fun e =>
      { e.2 with
        courseId := batch.id, sectionId := e.2.sectionId.map copyOf, sessionId := none, groupId := none
        createdAt := now })
  documents : ∃ (l : List (DocumentId × CourseDocument)) (now : Int),
    l.Perm (s.documents.entries.filter fun e => e.2.courseId == programId) ∧
    Appends s.documents s'.documents (l.map fun e => { e.2 with courseId := batch.id, createdAt := now })

/-- A section of the batch, which was not there before. -/
def Copied (s s' : Rows) (batch : Course) (sectionId : SectionId) : Prop :=
  s.sections.get sectionId = none ∧ InProgram s' batch.id sectionId

/-- What is new refers to sections of the batch only. -/
structure SelfContained (s s' : Rows) (batch : Course) : Prop where
  questions : ∀ id q, s'.questions.get id = some q → s.questions.get id = none → Copied s s' batch q.sectionId
  assignments : ∀ id a sectionId, s'.assignments.get id = some a → s.assignments.get id = none →
    a.sectionId = some sectionId → Copied s s' batch sectionId

/-- Every row there was is as it was. -/
structure Unchanged (s s' : Rows) : Prop where
  courses : ∀ id course, s.db.course id = some course → s'.db.course id = some course
  sections : ∀ id row, s.sections.get id = some row → s'.sections.get id = some row
  questions : ∀ id row, s.questions.get id = some row → s'.questions.get id = some row
  assignments : ∀ id row, s.assignments.get id = some row → s'.assignments.get id = some row
  documents : ∀ id row, s.documents.get id = some row → s'.documents.get id = some row

theorem Appends.keeps {ρ : Type} {t t' : Table String ρ} {rows : List ρ} (h : Appends t t' rows) {id : String}
    {row : ρ} (hrow : t.get id = some row) : t'.get id = some row := by
  obtain ⟨new, hnew, -⟩ := h
  exact Table.get_of_append hnew hrow

/-- A row that was not there before is one of those appended. -/
theorem Appends.new {ρ : Type} {t t' : Table String ρ} {rows : List ρ} (h : Appends t t' rows) {id : String}
    {row : ρ} (hrow : t'.get id = some row) (hnone : t.get id = none) : row ∈ rows := by
  obtain ⟨new, hnew, rfl⟩ := h
  have hmem := Table.mem_of_get hrow
  rw [hnew] at hmem
  rcases List.mem_append.1 hmem with hold | hmem
  · rw [Table.get_of_mem hold] at hnone
    cases hnone
  · exact List.mem_map.2 ⟨_, hmem, rfl⟩

theorem Complete.unchanged {s s' : Rows} {programId : CourseId} {batch : Course} {copyOf : SectionId → SectionId}
    (h : Complete s s' programId batch copyOf) : Unchanged s s' where
  courses id course hc := by
    rw [h.course]
    unfold Db.course at hc ⊢
    rw [List.find?_append, hc]
    rfl
  sections id row hrow := by
    obtain ⟨l, -, hentries⟩ := h.sections
    exact Table.get_of_append hentries hrow
  questions id row hrow := by
    obtain ⟨l, now, -, happends⟩ := h.questions
    exact happends.keeps hrow
  assignments id row hrow := by
    obtain ⟨l, now, -, happends⟩ := h.assignments
    exact happends.keeps hrow
  documents id row hrow := by
    obtain ⟨l, now, -, happends⟩ := h.documents
    exact happends.keeps hrow

/-- The copy of a section of the program is a section of the batch, and new. -/
theorem Complete.copied {s s' : Rows} {programId : CourseId} {batch : Course} {copyOf : SectionId → SectionId}
    (h : Complete s s' programId batch copyOf) {sectionId : SectionId} (hs : InProgram s programId sectionId) :
    Copied s s' batch (copyOf sectionId) := by
  obtain ⟨l, hperm, hentries⟩ := h.sections
  obtain ⟨row, hrow, hcourse⟩ := hs
  have hmem : (sectionId, row) ∈ l := by
    rw [hperm.mem_iff, List.mem_filter]
    exact ⟨Table.mem_of_get hrow, by simpa using hcourse⟩
  have hcopy : (copyOf sectionId, copySection batch.id row) ∈
      l.map fun e => (copyOf e.1, copySection batch.id e.2) := List.mem_map.2 ⟨_, hmem, rfl⟩
  constructor
  · -- the ids of one table are distinct, so a new row's is not an old one's
    refine Option.eq_none_iff_forall_ne_some.2 fun old hold => ?_
    have hnodup := s'.sections.nodup
    rw [hentries, List.map_append, List.nodup_append] at hnodup
    exact hnodup.2.2 _ (List.mem_map.2 ⟨_, Table.mem_of_get hold, rfl⟩) _ (List.mem_map.2 ⟨_, hcopy, rfl⟩) rfl
  · refine ⟨copySection batch.id row, Table.get_of_mem ?_, rfl⟩
    rw [hentries]
    exact List.mem_append_right _ hcopy

/-- Where what is copied is from the program, what is new is of the batch. -/
theorem Complete.selfContained {s s' : Rows} {programId : CourseId} {batch : Course}
    {copyOf : SectionId → SectionId} (h : Complete s s' programId batch copyOf)
    (hquestions : ∀ id q, s.questions.get id = some q → q.courseId = programId → q.active = true →
      InProgram s programId q.sectionId)
    (hassignments : ∀ id a, s.assignments.get id = some a → a.courseId = programId →
      ∀ sectionId, a.sectionId = some sectionId → InProgram s programId sectionId) : SelfContained s s' batch where
  questions id q hq hnone := by
    obtain ⟨l, now, hperm, happends⟩ := h.questions
    obtain ⟨e, he, rfl⟩ := List.mem_map.1 (happends.new hq hnone)
    obtain ⟨hmem, hof⟩ := List.mem_filter.1 (hperm.mem_iff.1 he)
    rw [Bool.and_eq_true, beq_iff_eq] at hof
    exact h.copied (hquestions e.1 e.2 (Table.get_of_mem hmem) hof.1 hof.2)
  assignments id a sectionId ha hnone hsection := by
    obtain ⟨l, now, hperm, happends⟩ := h.assignments
    obtain ⟨e, he, rfl⟩ := List.mem_map.1 (happends.new ha hnone)
    obtain ⟨hmem, hof⟩ := List.mem_filter.1 (hperm.mem_iff.1 he)
    rw [beq_iff_eq] at hof
    obtain ⟨original, horiginal, rfl⟩ := Option.map_eq_some_iff.1 hsection
    exact h.copied (hassignments e.1 e.2 (Table.get_of_mem hmem) hof original horiginal)

/-! ## The loops -/

theorem copyQuestions_spec {t t' : Tx} {fromCourseId toCourseId : CourseId} {m : List (SectionId × SectionId)}
    {copyOf : SectionId → SectionId} (h : copyQuestions w fromCourseId toCourseId m t = some t')
    (hlookup : ∀ id q, t.rows.questions.get id = some q → q.courseId = fromCourseId → q.active = true →
      lookup m q.sectionId = some (copyOf q.sectionId)) :
    (∃ (l : List (QuestionId × AssessmentQuestion)) (now : Int),
      l.Perm (t.rows.questions.entries.filter fun e => e.2.courseId == fromCourseId && e.2.active) ∧
      Appends t.rows.questions t'.rows.questions (l.map fun e =>
        { e.2 with courseId := toCourseId, sectionId := copyOf e.2.sectionId, createdAt := now })) ∧
      t'.rows = { t.rows with questions := t'.rows.questions } := by
  obtain ⟨l, hfound, h⟩ := Option.bind_eq_some_iff.1 h
  obtain ⟨questions, hcreate, rfl⟩ := Option.map_eq_some_iff.1 h
  have hperm := findMany_perm hfound
  -- no question is an orphan
  have hcopies : (l.filterMap fun e => copyQuestion toCourseId m (w.now t.next.calls) e.2) = l.map fun e =>
      { e.2 with courseId := toCourseId, sectionId := copyOf e.2.sectionId, createdAt := w.now t.next.calls } := by
    rw [List.filterMap_eq_map_iff_forall_eq_some]
    intro e he
    obtain ⟨hmem, hof⟩ := List.mem_filter.1 (hperm.mem_iff.1 he)
    rw [Bool.and_eq_true, beq_iff_eq] at hof
    unfold copyQuestion
    rw [hlookup e.1 e.2 (Table.get_of_mem hmem) hof.1 hof.2]
    rfl
  rw [hcopies] at hcreate
  exact ⟨⟨l, w.now t.next.calls, hperm, createMany_appends hcreate⟩, rfl⟩

theorem copyAssignments_spec {t t' : Tx} {fromCourseId toCourseId : CourseId} {m : List (SectionId × SectionId)}
    {copyOf : SectionId → SectionId} (h : copyAssignments w fromCourseId toCourseId m t = some t')
    (hlookup : ∀ id a, t.rows.assignments.get id = some a → a.courseId = fromCourseId →
      ∀ sectionId, a.sectionId = some sectionId → lookup m sectionId = some (copyOf sectionId)) :
    (∃ (l : List (AssignmentId × Assignment)) (now : Int),
      l.Perm (t.rows.assignments.entries.filter fun e => e.2.courseId == fromCourseId) ∧
      Appends t.rows.assignments t'.rows.assignments (l.map fun e =>
        { e.2 with
          courseId := toCourseId, sectionId := e.2.sectionId.map copyOf, sessionId := none, groupId := none
          createdAt := now })) ∧
      t'.rows = { t.rows with assignments := t'.rows.assignments } := by
  obtain ⟨l, hfound, h⟩ := Option.bind_eq_some_iff.1 h
  obtain ⟨assignments, hcreate, rfl⟩ := Option.map_eq_some_iff.1 h
  have hperm := findMany_perm hfound
  have hcopies : (l.map fun e => copyAssignment toCourseId m (w.now t.next.calls) e.2) = l.map fun e =>
      { e.2 with
        courseId := toCourseId, sectionId := e.2.sectionId.map copyOf, sessionId := none, groupId := none
        createdAt := w.now t.next.calls } := by
    refine List.map_congr_left fun e he => ?_
    obtain ⟨hmem, hof⟩ := List.mem_filter.1 (hperm.mem_iff.1 he)
    rw [beq_iff_eq] at hof
    have hsection : e.2.sectionId.bind (lookup m) = e.2.sectionId.map copyOf := by
      cases hs : e.2.sectionId with
      | none => rfl
      | some sectionId => exact hlookup e.1 e.2 (Table.get_of_mem hmem) hof sectionId hs
    unfold copyAssignment
    rw [hsection]
  rw [hcopies] at hcreate
  exact ⟨⟨l, w.now t.next.calls, hperm, createMany_appends hcreate⟩, rfl⟩

theorem copyDocuments_spec {t t' : Tx} {fromCourseId toCourseId : CourseId}
    (h : copyDocuments w fromCourseId toCourseId t = some t') :
    (∃ (l : List (DocumentId × CourseDocument)) (now : Int),
      l.Perm (t.rows.documents.entries.filter fun e => e.2.courseId == fromCourseId) ∧
      Appends t.rows.documents t'.rows.documents (l.map fun e =>
        { e.2 with courseId := toCourseId, createdAt := now })) ∧
      t'.rows = { t.rows with documents := t'.rows.documents } := by
  obtain ⟨l, hfound, h⟩ := Option.bind_eq_some_iff.1 h
  obtain ⟨documents, hcreate, rfl⟩ := Option.map_eq_some_iff.1 h
  exact ⟨⟨l, w.now t.next.calls, findMany_perm hfound, createMany_appends hcreate⟩, rfl⟩

/-- A transaction that commits leaves a complete copy. -/
theorem transaction_spec {rows rows' : Rows} {programId : CourseId} {batch : Course}
    (h : transaction w rows programId batch = some rows')
    (hquestions : ∀ id q, rows.questions.get id = some q → q.courseId = programId → q.active = true →
      InProgram rows programId q.sectionId)
    (hassignments : ∀ id a, rows.assignments.get id = some a → a.courseId = programId →
      ∀ sectionId, a.sectionId = some sectionId → InProgram rows programId sectionId) :
    ∃ copyOf, Complete rows rows' programId batch copyOf := by
  unfold transaction at h
  split at h
  · cases h
  obtain ⟨t₄, hsnapshot, hcommit⟩ := Option.bind_eq_some_iff.1 h
  split at hcommit
  · cases hcommit
  cases hcommit
  obtain ⟨l, hfound, h⟩ := Option.bind_eq_some_iff.1 hsnapshot
  obtain ⟨⟨m, t₁⟩, hsections, h⟩ := Option.bind_eq_some_iff.1 h
  obtain ⟨t₂, hcopyQuestions, h⟩ := Option.bind_eq_some_iff.1 h
  obtain ⟨t₃, hcopyAssignments, hcopyDocuments⟩ := Option.bind_eq_some_iff.1 h
  have hperm := ((l.perm_insertionSort fun a b => a.2.order ≤ b.2.order).trans (findMany_perm hfound))
  obtain ⟨hkeys, hentries, hrows₁⟩ := copySections_spec hsections
  -- the map is read by id, so its first entry for a section is its only one
  have hnodup : (m.map (·.1)).Nodup := by
    rw [hkeys]
    exact ((hperm.map _).nodup_iff).2 (rows.sections.nodup.sublist (List.filter_sublist.map _))
  let copyOf : SectionId → SectionId := fun id => (lookup m id).getD id
  have hmapped : ∀ p ∈ m, copyOf p.1 = p.2 := fun p hp => by
    show (lookup m p.1).getD p.1 = p.2
    rw [lookup_of_mem hnodup hp]
    rfl
  have hlookup : ∀ sectionId, InProgram rows programId sectionId →
      lookup m sectionId = some (copyOf sectionId) := by
    rintro sectionId ⟨row, hrow, hcourse⟩
    have hmem : sectionId ∈ m.map (·.1) := by
      rw [hkeys]
      refine List.mem_map.2 ⟨(sectionId, row), hperm.mem_iff.2 (List.mem_filter.2 ⟨Table.mem_of_get hrow, ?_⟩), rfl⟩
      simpa using hcourse
    obtain ⟨p, hp, rfl⟩ := List.mem_map.1 hmem
    rw [lookup_of_mem hnodup hp, hmapped p hp]
  have hquestion : ∀ id q, t₁.rows.questions.get id = some q → q.courseId = programId → q.active = true →
      lookup m q.sectionId = some (copyOf q.sectionId) := by
    intro id q hq hcourse hactive
    rw [hrows₁] at hq
    exact hlookup _ (hquestions id q hq hcourse hactive)
  obtain ⟨hquestions', hrows₂⟩ := copyQuestions_spec hcopyQuestions hquestion
  have hassignment : ∀ id a, t₂.rows.assignments.get id = some a → a.courseId = programId →
      ∀ sectionId, a.sectionId = some sectionId → lookup m sectionId = some (copyOf sectionId) := by
    intro id a ha hcourse sectionId hsection
    rw [hrows₂, hrows₁] at ha
    exact hlookup _ (hassignments id a ha hcourse sectionId hsection)
  obtain ⟨hassignments', hrows₃⟩ := copyAssignments_spec hcopyAssignments hassignment
  obtain ⟨hdocuments', hrows₄⟩ := copyDocuments_spec hcopyDocuments
  refine ⟨copyOf, ?_⟩
  rw [hrows₄, hrows₃, hrows₂, hrows₁]
  rw [hrows₃, hrows₂, hrows₁] at hdocuments'
  rw [hrows₂, hrows₁] at hassignments'
  rw [hrows₁] at hquestions'
  exact ⟨rfl, ⟨_, hperm, hentries copyOf hmapped⟩, hquestions', hassignments', hdocuments'⟩

/-- Of a program whose questions and assignments have their sections in it, a batch that is created has
a complete copy, which refers to nothing of the program's, and every row there was is as it was; a batch
that is not created leaves nothing. -/
theorem createBatch_snapshot (w : World) (env : Env) (rows : Rows) (user : JwtPayload) (programId : CourseId)
    (dto : CreateBatchDto)
    (hquestions : ∀ id q, rows.questions.get id = some q → q.courseId = programId → q.active = true →
      InProgram rows programId q.sectionId)
    (hassignments : ∀ id a, rows.assignments.get id = some a → a.courseId = programId →
      ∀ sectionId, a.sectionId = some sectionId → InProgram rows programId sectionId) :
    (∀ rows' batch, createBatch w env rows user programId dto = (rows', .ok batch) →
      (∃ copyOf, Complete rows rows' programId batch copyOf) ∧ SelfContained rows rows' batch ∧ Unchanged rows rows') ∧
    ∀ rows' e, createBatch w env rows user programId dto = (rows', .error e) → rows' = rows := by
  unfold createBatch
  split
  · constructor
    · intro rows' batch h
      cases h
    · intro rows' e h
      cases h
      rfl
  · dsimp only
    split
    · rename_i batch hbatch
      constructor
      · intro rows' batch' h
        cases h
        obtain ⟨rows', hcommitted⟩ := Option.isSome_iff_exists.1 (createBatch_ok hbatch).2
        rw [hcommitted, Option.getD_some]
        obtain ⟨copyOf, hcomplete⟩ := transaction_spec hcommitted hquestions hassignments
        exact ⟨⟨copyOf, hcomplete⟩, hcomplete.selfContained hquestions hassignments, hcomplete.unchanged⟩
      · intro rows' e h
        cases h
    · constructor
      · intro rows' batch h
        cases h
      · intro rows' e h
        cases h
        rfl

namespace Example

/-- Nothing fails, and ids grow with the calls. -/
def calm : World where
  fails _ := false
  now _ := 0
  sectionId n := ⟨String.ofList ('s' :: List.replicate n '+'), by simp⟩
  rowId n i := String.ofList (List.replicate n '+' ++ List.replicate i 'i')
  listed _ _ rows := rows
  perm _ _ _ := .refl _

def first : SectionId := ⟨"first", by decide⟩
def second : SectionId := ⟨"second", by decide⟩

/-- A program of two sections, an active and a retired question, an assignment in a section and one in
none, and a document. -/
def content : Rows where
  db := Courses.Example.db
  sections := ⟨[(second, ⟨"p", 2, "Practice", none⟩), (first, ⟨"p", 1, "Theory", some "Start here"⟩)], by decide⟩
  questions := ⟨[("q1", ⟨"p", second, "Which?", .arr [], 0, true, "admin", 0⟩),
    ("q2", ⟨"p", first, "Why?", .arr [], 0, false, "admin", 0⟩)], by decide⟩
  assignments := ⟨[("a1", ⟨"p", some first, some "session", none, "Read", none, none, some 10, "admin", 0⟩),
    ("a2", ⟨"p", none, none, none, "Write", none, none, none, "admin", 0⟩)], by decide⟩
  documents := ⟨[("d1", ⟨"p", "notes.pdf", "docs/notes.pdf", "application/pdf", 3, "abc", "admin", 0⟩)], by decide⟩

/-- The sections of `content` are the program's. -/
theorem section_inProgram {sectionId : SectionId} (h : sectionId = first ∨ sectionId = second) :
    InProgram content "p" sectionId := by
  rcases h with rfl | rfl
  · exact ⟨⟨"p", 1, "Theory", some "Start here"⟩, rfl, rfl⟩
  · exact ⟨⟨"p", 2, "Practice", none⟩, rfl, rfl⟩

theorem questions_inProgram (id : QuestionId) (q : AssessmentQuestion) (h : content.questions.get id = some q) :
    InProgram content "p" q.sectionId := by
  have hmem := Table.mem_of_get h
  rcases List.mem_cons.1 hmem with hq | hmem
  · cases hq
    exact section_inProgram (.inr rfl)
  · cases List.mem_singleton.1 hmem
    exact section_inProgram (.inl rfl)

theorem assignments_inProgram (id : AssignmentId) (a : Assignment) (h : content.assignments.get id = some a)
    (sectionId : SectionId) (hs : a.sectionId = some sectionId) : InProgram content "p" sectionId := by
  have hmem := Table.mem_of_get h
  rcases List.mem_cons.1 hmem with ha | hmem
  · cases ha
    cases hs
    exact section_inProgram (.inl rfl)
  · cases List.mem_singleton.1 hmem
    cases hs

end Example

open Snapshot.Example in
theorem content_copied :
    ∃ rows' batch, createBatch calm Courses.Example.env content Courses.Example.admin "p" Courses.Example.evening =
        (rows', .ok batch) ∧
      (∃ copyOf, Complete content rows' "p" batch copyOf) ∧ SelfContained content rows' batch ∧
      Unchanged content rows' :=
  ⟨_, _, rfl, (createBatch_snapshot calm Courses.Example.env content Courses.Example.admin "p"
    Courses.Example.evening (fun id q h _ _ => questions_inProgram id q h)
    fun id a h _ => assignments_inProgram id a h).1 _ _ rfl⟩

end Livetich.Courses.Snapshot
