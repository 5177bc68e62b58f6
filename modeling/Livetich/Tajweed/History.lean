/-
The history of Tajweed annotations: `create`, `update`, `remove` and `linkCorrectionsToRecitation` of
`TajweedService`, database call by database call, and the revisions they record. An edit and a link are
conditional on the version; a create and a deletion act on what they have read before.
-/
import Livetich.Lib.Table
import Livetich.Lib.TransSys
import Livetich.Tajweed.Model

namespace Livetich.Tajweed.History

open TransSys Livetich.Lib

/-- A recorded revision, with what no call reads back: the row right after the change, or as it stood
when it was deleted, and the version that the edit was based on. -/
structure Recorded where
  revision : Revision
  row : AnnotationRow
  basedOn : Option Nat
  deriving DecidableEq

/-- The recitation that corrections are linked to. -/
structure HifzEntry where
  id : String
  courseId : CourseId
  studentId : UserId
  sessionId : Option SessionId
  recordedById : UserId

/-- What the checks of a create have found out. -/
structure Filed where
  organizationId : OrganizationId
  sectionId : Option String
  parts : List Part
  content : Content

/-- What an edit writes. -/
structure Edit where
  parts : Option (List Part)
  content : Content
  kept : Bool

/-- A call by the database call it waits for, with what it has read by then. -/
inductive Call
  | looking (user : UserId) (courseId : CourseId) (dto : CreateDto)
  | checking (user : UserId) (courseId : CourseId) (dto : CreateDto)
  | inserting (user : UserId) (courseId : CourseId) (dto : CreateDto) (filed : Filed)
  | relooking (user : UserId) (courseId : CourseId) (dto : CreateDto)
  | finding (user : UserId) (courseId : CourseId) (id : AnnotationId) (dto : UpdateDto)
  | notifying (user : UserId) (courseId : CourseId) (row : AnnotationRow) (dto : UpdateDto)
  | editing (user : UserId) (courseId : CourseId) (id : AnnotationId) (version : Nat) (edit : Edit)
  | findingToRemove (user : UserId) (courseId : CourseId) (id : AnnotationId) (sessionId : Option SessionId)
  | notifyingRemoval (user : UserId) (row : AnnotationRow)
  | deleting (user : UserId) (row : AnnotationRow)
  | listing (entry : HifzEntry)
  | linking (entry : HifzEntry) (id : AnnotationId) (version : Nat) (rest : List (AnnotationId × Nat)) (linked : Nat)

/-- The first database call of `create`, `update`, `remove` or `linkCorrectionsToRecitation`. -/
def Call.starts : Call → Bool
  | .looking .. | .finding .. | .findingToRemove .. | .listing .. => true
  | _ => false

inductive Answer
  | saved (a : TajweedAnnotation)
  | deleted
  | linked (n : Nat)
  deriving DecidableEq

/-- What other tables answer: the course's organization, the section of a session of this course, whether
the student is enrolled, whether the section and the recitation are there; and whether a transaction goes
through. -/
structure Reply where
  organizationId : Option OrganizationId
  session : Option (Option String)
  enrolled : Bool
  sectionFound : Bool
  entryFound : Bool
  accepted : Bool

inductive Write
  | insert (row : AnnotationRow) (user : UserId)
  | edit (id : AnnotationId) (base : Nat) (next : AnnotationRow) (user : UserId)
  /-- With the row as `remove` has read it, and as it stands. -/
  | delete (read current : AnnotationRow) (user : UserId)

inductive Next
  | goes (call : Call)
  | ends (answer : Result Answer)

structure State where
  rows : Table AnnotationId AnnotationRow
  /-- The newest first. -/
  records : List Recorded
  calls : Pool Call
  now : Nat
  answers : List (Nat × Result Answer)

inductive Event
  | request (i : Nat) (call : Call)
  | resume (i : Nat) (reply : Reply)
  | tick (ms : Nat)

/-! ## Checks -/

def stale : String := "This annotation was changed somewhere else. Reload it and try again."

def find (s : State) (courseId : CourseId) (id : AnnotationId) : Result AnnotationRow :=
  orThrow ((s.rows.get id).filter fun row => row.courseId = courseId)
    (.notFound "Annotation not found in this course")

def replay (row : AnnotationRow) (user : UserId) (courseId : CourseId) : Result Answer := do
  ensure (row.courseId = courseId ∧ row.createdById = user)
    (.conflict "An annotation with that id already exists" none)
  return .saved (toPublic row)

/-- A string that is there and not empty. -/
def given (x : Option String) : Option String := x.filter (· ≠ "")

def resolveSection (reply : Reply) (sectionId : Option String) (sessionId : Option SessionId) :
    Result (Option String) := do
  let own ← match given sessionId with
    | none => pure none
    | some _ => orThrow reply.session (.notFound "Session not found in this course")
  let found := sectionId.or own
  ensure (given found = none ∨ reply.sectionFound = true) (.notFound "Lesson not found in this course")
  return found

/-- The checks of `create`, after the id has been looked up. -/
def checkCreate (quran : Quran) (reply : Reply) (dto : CreateDto) : Result Filed := do
  let organizationId ← orThrow reply.organizationId (.forbidden "This course does not belong to a workspace")
  let parts ← checkParts quran dto.parts
  let content ← contentOf dto.content dto.mode
  match dto.mode with
  | .lesson =>
    ensure (given dto.studentId = none ∧ given dto.hifzEntryId = none)
      (.badRequest "A lesson annotation is not about one student — save it as a correction instead")
  | .studentCorrection =>
    ensure (given dto.studentId ≠ none) (.badRequest "Choose the student this correction is for")
    ensure (reply.enrolled = true) (.forbidden "That student is not enrolled in this course")
  let sectionId ← resolveSection reply dto.sectionId dto.sessionId
  ensure (given dto.hifzEntryId = none ∨ reply.entryFound = true)
    (.notFound "That recitation is not this student's in this course")
  return ⟨organizationId, sectionId, parts, content⟩

/-- `firstAyahOf`, for parts that have been checked. -/
def firstAyahOf (parts : List Part) : Nat × Nat :=
  ((parts.head?.map (·.surahNumber)).getD 0, (parts.head?.map (·.ayahNumber)).getD 0)

def newRow (now : Nat) (user : UserId) (courseId : CourseId) (dto : CreateDto) (filed : Filed) : AnnotationRow where
  id := dto.id
  organizationId := filed.organizationId
  courseId := courseId
  sectionId := filed.sectionId
  sessionId := dto.sessionId
  mode := dto.mode
  studentId := dto.studentId
  hifzEntryId := dto.hifzEntryId
  surahNumber := (firstAyahOf filed.parts).1
  ayahNumber := (firstAyahOf filed.parts).2
  -- Only lesson material is kept for next time.
  kept := match dto.mode with
    | .lesson => dto.kept.getD false
    | .studentCorrection => false
  content := filed.content
  version := 1
  createdById := user
  updatedById := user
  createdAt := now
  updatedAt := now
  parts := filed.parts

/-- What `update` is about to write, from the row it has found. -/
def editOf (quran : Quran) (row : AnnotationRow) (dto : UpdateDto) : Result Edit := do
  let parts ← match dto.parts with
    | none => pure none
    | some parts => (checkParts quran parts).map some
  let content ← contentOf (dto.content row) row.mode
  let kept := match row.mode with
    | .lesson => dto.kept.getD row.kept
    | .studentCorrection => false
  return ⟨parts, content, kept⟩

def editRow (now : Nat) (user : UserId) (edit : Edit) (row : AnnotationRow) : AnnotationRow where
  id := row.id
  organizationId := row.organizationId
  courseId := row.courseId
  sectionId := row.sectionId
  sessionId := row.sessionId
  mode := row.mode
  studentId := row.studentId
  hifzEntryId := row.hifzEntryId
  surahNumber := (edit.parts.map fun parts => (firstAyahOf parts).1).getD row.surahNumber
  ayahNumber := (edit.parts.map fun parts => (firstAyahOf parts).2).getD row.ayahNumber
  kept := edit.kept
  content := edit.content
  version := row.version + 1
  createdById := row.createdById
  updatedById := user
  createdAt := row.createdAt
  updatedAt := now
  parts := edit.parts.getD row.parts

def linkRow (now : Nat) (entry : HifzEntry) (row : AnnotationRow) : AnnotationRow :=
  { row with hifzEntryId := some entry.id, version := row.version + 1, updatedById := entry.recordedById
             updatedAt := now }

/-! ## Calls -/

/-- What a call does when its database call comes back: a write, if it is one that goes through, and how
the call goes on. -/
abbrev Act := Option Write × Next

def serverError : HttpError := .internal "Internal server error"

/-- The edit of a row that has been found and is of the version the edit is based on. -/
def prepare (quran : Quran) (user : UserId) (courseId : CourseId) (row : AnnotationRow) (dto : UpdateDto) : Next :=
  match editOf quran row dto with
  | .error e => .ends (.error e)
  | .ok edit => .goes (.editing user courseId row.id dto.version edit)

/-- The next correction to link. -/
def linkNext (entry : HifzEntry) (linked : Nat) : List (AnnotationId × Nat) → Next
  | [] => .ends (.ok (.linked linked))
  | (id, version) :: rest => .goes (.linking entry id version rest linked)

/-- The corrections of a sitting that are not linked yet. -/
def toLink (s : State) (entry : HifzEntry) (sessionId : SessionId) : List (AnnotationId × Nat) :=
  (s.rows.entries.filter fun e => e.2.courseId = entry.courseId ∧ e.2.studentId = some entry.studentId ∧
    e.2.sessionId = some sessionId ∧ e.2.mode = .studentCorrection ∧ e.2.hifzEntryId = none).map
      fun e => (e.1, e.2.version)

def Call.act (quran : Quran) (s : State) (reply : Reply) : Call → Act
  | .looking user courseId dto =>
    match s.rows.get dto.id with
    | some row => (none, .ends (replay row user courseId))
    | none => (none, .goes (.checking user courseId dto))
  | .checking user courseId dto =>
    match checkCreate quran reply dto with
    | .error e => (none, .ends (.error e))
    | .ok filed => (none, .goes (.inserting user courseId dto filed))
  | .inserting user courseId dto filed =>
    if reply.accepted then
      match s.rows.get dto.id with
      -- P2002: two resends racing.
      | some _ => (none, .goes (.relooking user courseId dto))
      | none =>
        let row := newRow s.now user courseId dto filed
        (some (.insert row user), .ends (.ok (.saved (toPublic row))))
    else (none, .ends (.error serverError))
  | .relooking user courseId dto =>
    match s.rows.get dto.id with
    | some row => (none, .ends (replay row user courseId))
    | none => (none, .ends (.error serverError))
  | .finding user courseId id dto =>
    match find s courseId id with
    | .error e => (none, .ends (.error e))
    | .ok row =>
      if dto.version ≠ row.version then (none, .ends (.error (.conflict stale (some (toPublic row)))))
      else match given dto.sessionId with
        | none => (none, prepare quran user courseId row dto)
        | some _ => (none, .goes (.notifying user courseId row dto))
  | .notifying user courseId row dto =>
    if reply.session.isSome then (none, prepare quran user courseId row dto)
    else (none, .ends (.error (.notFound "Session not found in this course")))
  | .editing user courseId id version edit =>
    if reply.accepted then
      match s.rows.get id with
      | some row =>
        if row.courseId = courseId ∧ row.version = version then
          let next := editRow s.now user edit row
          (some (.edit id version next user), .ends (.ok (.saved (toPublic next))))
        else (none, .ends (.error (.conflict stale none)))
      | none => (none, .ends (.error (.conflict stale none)))
    else (none, .ends (.error serverError))
  | .findingToRemove user courseId id sessionId =>
    match find s courseId id with
    | .error e => (none, .ends (.error e))
    | .ok row =>
      match given sessionId with
      | none => (none, .goes (.deleting user row))
      | some _ => (none, .goes (.notifyingRemoval user row))
  | .notifyingRemoval user row =>
    if reply.session.isSome then (none, .goes (.deleting user row))
    else (none, .ends (.error (.notFound "Session not found in this course")))
  | .deleting user row =>
    if reply.accepted then
      match s.rows.get row.id with
      | some current => (some (.delete row current user), .ends (.ok .deleted))
      -- P2025: it is gone already, and the transaction is rolled back.
      | none => (none, .ends (.error serverError))
    else (none, .ends (.error serverError))
  | .listing entry =>
    match given entry.sessionId with
    | none => (none, .ends (.ok (.linked 0)))
    | some sessionId => (none, linkNext entry 0 (toLink s entry sessionId))
  | .linking entry id version rest linked =>
    if reply.accepted then
      match s.rows.get id with
      | some row =>
        if row.version = version ∧ row.hifzEntryId = none then
          (some (.edit id version (linkRow s.now entry row) entry.recordedById), linkNext entry (linked + 1) rest)
        else (none, linkNext entry linked rest)
      | none => (none, linkNext entry linked rest)
    else (none, .ends (.error serverError))

/-! ## Steps -/

/-- The change and its revision, in one transaction. -/
def State.commit (s : State) : Write → State
  | .insert row user =>
    { s with rows := s.rows.insert row.id row, records := ⟨revision row .created user, row, none⟩ :: s.records }
  | .edit id base next user =>
    { s with rows := s.rows.modify id fun _ => next
             records := ⟨revision next .updated user, next, some base⟩ :: s.records }
  | .delete read current user =>
    { s with rows := s.rows.filter fun id _ => id != read.id
             records := ⟨revision read .deleted user, current, none⟩ :: s.records }

def State.write (s : State) (write : Option Write) : State := (write.map s.commit).getD s

def State.goOn (s : State) (i : Nat) : Next → State
  | .goes call => { s with calls := s.calls.put i (some call) }
  | .ends answer => { s with calls := s.calls.put i none, answers := (i, answer) :: s.answers }

def step (quran : Quran) (s : State) : Event → Option State
  | .request i call =>
    if call.starts && (s.calls.get i).isNone then some { s with calls := s.calls.put i (some call) } else none
  | .resume i reply =>
    (s.calls.get i).map fun call => (s.write (call.act quran s reply).1).goOn i (call.act quran s reply).2
  | .tick ms => some { s with now := s.now + ms }

/-! ## What history should say -/

/-- The revisions of one annotation, the newest first. -/
def State.recordsOf (s : State) (id : AnnotationId) : List Recorded :=
  s.records.filter fun r => r.revision.annotationId = id

abbrev Entry := TajweedChange × Nat × Option Nat

/-- What was done, the version recorded with it, and the version it was based on. -/
def Recorded.entry (r : Recorded) : Entry := (r.revision.change, r.revision.version, r.basedOn)

/-- Created, and then edited `n` times. -/
def edited (n : Nat) : List Entry := (.created, 1, none) :: (List.range n).map fun k => (.updated, k + 2, some (k + 1))

/-- The changes of one annotation, the oldest first. -/
def changes (records : List Recorded) : List Entry := (records.map Recorded.entry).reverse

/-- Complete and truthful: created once, edited version by version, deleted at most once and last, no two
edits based on one version, and each revision shows the row it is about. -/
structure Truthful (records : List Recorded) : Prop where
  order : records = [] ∨ ∃ n, changes records = edited n ∨ changes records = edited n ++ [(.deleted, n + 1, none)]
  bases : (records.filterMap (·.basedOn)).Nodup
  snapshots : ∀ r ∈ records, r.revision.snapshot = toPublic r.row ∧ r.revision.version = r.row.version

/-! ## The condition -/

/-- A create that goes through is of an id never used before, and a deletion of an annotation as it was
read. -/
def undisturbed (id : AnnotationId) (s : State) : Event → Bool
  | .resume i reply =>
    match s.calls.get i with
    | some (.inserting _ _ dto _) =>
      dto.id ≠ id || !reply.accepted || (s.rows.get id).isSome || (s.recordsOf id).isEmpty
    | some (.deleting _ read) =>
      read.id ≠ id || !reply.accepted || (s.rows.get id).all fun current => toPublic read = toPublic current
    | _ => true
  | _ => true

/-! ## What a step writes -/

/-- The three ways a call writes: a new row, an edit of the version that it is based on, and a deletion. -/
theorem act_write {quran : Quran} {s : State} {reply : Reply} {call : Call} {w : Write}
    (h : (call.act quran s reply).1 = some w) :
    (∃ user courseId dto filed, call = .inserting user courseId dto filed ∧ reply.accepted = true ∧
      s.rows.get dto.id = none ∧ w = .insert (newRow s.now user courseId dto filed) user) ∨
    (∃ id row next user, s.rows.get id = some row ∧ next.id = row.id ∧ next.version = row.version + 1 ∧
      w = .edit id row.version next user ∧
      ((∃ courseId edit, call = .editing user courseId id row.version edit ∧ next = editRow s.now user edit row ∧
          (call.act quran s reply).2 = .ends (.ok (.saved (toPublic next)))) ∨
        ∃ entry rest linked, call = .linking entry id row.version rest linked ∧ next = linkRow s.now entry row ∧
          (call.act quran s reply).2 = linkNext entry (linked + 1) rest)) ∨
    (∃ user read current, call = .deleting user read ∧ reply.accepted = true ∧
      s.rows.get read.id = some current ∧ w = .delete read current user) := by
  cases call with
  | inserting user courseId dto filed =>
    simp only [Call.act] at h
    split at h
    · rename_i haccepted
      split at h
      · cases h
      · rename_i hnone
        cases h
        exact .inl ⟨user, courseId, dto, filed, rfl, haccepted, hnone, rfl⟩
    · cases h
  | editing user courseId id version edit =>
    simp only [Call.act] at h
    split at h
    · rename_i haccepted
      split at h
      · rename_i row hrow
        split at h
        · rename_i hmatch
          cases h
          refine .inr (.inl ⟨id, row, editRow s.now user edit row, user, hrow, rfl, rfl, by rw [hmatch.2], .inl ?_⟩)
          refine ⟨courseId, edit, by rw [hmatch.2], rfl, ?_⟩
          simp only [Call.act, haccepted, hrow, hmatch, and_self, if_true]
        · cases h
      · cases h
    · cases h
  | deleting user read =>
    simp only [Call.act] at h
    split at h
    · rename_i haccepted
      split at h
      · rename_i current hcurrent
        cases h
        exact .inr (.inr ⟨user, read, current, rfl, haccepted, hcurrent, rfl⟩)
      · cases h
    · cases h
  | linking entry id version rest linked =>
    simp only [Call.act] at h
    split at h
    · rename_i haccepted
      split at h
      · rename_i row hrow
        split at h
        · rename_i hmatch
          cases h
          refine .inr (.inl ⟨id, row, linkRow s.now entry row, entry.recordedById, hrow, rfl, rfl, by rw [hmatch.1],
            .inr ?_⟩)
          refine ⟨entry, rest, linked, by rw [hmatch.1], rfl, ?_⟩
          simp only [Call.act, haccepted, hrow, hmatch, and_self, if_true]
        · cases h
      · cases h
    · cases h
  | looking user courseId dto =>
    simp only [Call.act] at h
    split at h <;> cases h
  | checking user courseId dto =>
    simp only [Call.act] at h
    split at h <;> cases h
  | relooking user courseId dto =>
    simp only [Call.act] at h
    split at h <;> cases h
  | finding user courseId id dto =>
    simp only [Call.act] at h
    split at h
    · cases h
    · split at h
      · cases h
      · split at h <;> cases h
  | notifying user courseId row dto =>
    simp only [Call.act] at h
    split at h <;> cases h
  | findingToRemove user courseId id sessionId =>
    simp only [Call.act] at h
    split at h
    · cases h
    · split at h <;> cases h
  | notifyingRemoval user row =>
    simp only [Call.act] at h
    split at h <;> cases h
  | listing entry =>
    simp only [Call.act] at h
    split at h <;> cases h

@[simp] theorem goOn_rows (s : State) (i : Nat) (next : Next) : (s.goOn i next).rows = s.rows := by
  cases next <;> rfl

@[simp] theorem goOn_records (s : State) (i : Nat) (next : Next) : (s.goOn i next).records = s.records := by
  cases next <;> rfl

/-- A step leaves the rows and the records as they are, or commits one write of a call. -/
theorem step_cases {quran : Quran} {s s' : State} {ev : Event} (h : step quran s ev = some s') :
    (s'.rows = s.rows ∧ s'.records = s.records) ∨
    ∃ i reply call w, ev = .resume i reply ∧ s.calls.get i = some call ∧ (call.act quran s reply).1 = some w ∧
      s'.rows = (s.commit w).rows ∧ s'.records = (s.commit w).records := by
  cases ev with
  | request i call =>
    unfold step at h
    dsimp only at h
    split at h
    · cases h
      exact .inl ⟨rfl, rfl⟩
    · cases h
  | resume i reply =>
    obtain ⟨call, hcall, rfl⟩ := Option.map_eq_some_iff.1 h
    rw [goOn_rows, goOn_records]
    cases hw : (call.act quran s reply).1 with
    | none => exact .inl ⟨rfl, rfl⟩
    | some w => exact .inr ⟨i, reply, call, w, rfl, hcall, hw, rfl, rfl⟩
  | tick ms =>
    cases h
    exact .inl ⟨rfl, rfl⟩

theorem recordsOf_push {s s' : State} {r : Recorded} (h : s'.records = r :: s.records) (id : AnnotationId) :
    s'.recordsOf id = if r.revision.annotationId = id then r :: s.recordsOf id else s.recordsOf id := by
  unfold State.recordsOf
  rw [h, List.filter_cons]
  simp

theorem recordsOf_congr {s s' : State} (h : s'.records = s.records) (id : AnnotationId) :
    s'.recordsOf id = s.recordsOf id := by
  unfold State.recordsOf
  rw [h]

theorem changes_cons (r : Recorded) (records : List Recorded) :
    changes (r :: records) = changes records ++ [r.entry] := by
  unfold changes
  rw [List.map_cons, List.reverse_cons]

theorem edited_succ (n : Nat) : edited (n + 1) = edited n ++ [(.updated, n + 2, some (n + 1))] := by
  unfold edited
  rw [List.range_succ, List.map_append, List.map_singleton, List.cons_append]

/-! ## Along a run -/

/-- The history of one annotation as its row says it is. -/
structure Chronicle (row : Option AnnotationRow) (records : List Recorded) : Prop where
  standing : ∀ r, row = some r → ∃ n, changes records = edited n ∧ r.version = n + 1
  gone : row = none → records = [] ∨ ∃ n, changes records = edited n ++ [(.deleted, n + 1, none)]
  snapshots : ∀ r ∈ records, r.revision.snapshot = toPublic r.row ∧ r.revision.version = r.row.version

theorem Chronicle.created {row : AnnotationRow} (hversion : row.version = 1) (user : UserId) :
    Chronicle (some row) [⟨revision row .created user, row, none⟩] := by
  refine ⟨?_, ?_, ?_⟩
  · rintro r hr
    cases hr
    refine ⟨0, ?_, hversion⟩
    show [((.created, row.version, none) : Entry)] = edited 0
    rw [hversion]
    rfl
  · rintro ⟨⟩
  · intro r hr
    rw [List.mem_singleton] at hr
    subst hr
    exact ⟨rfl, rfl⟩

theorem Chronicle.updated {row next : AnnotationRow} {records : List Recorded} (h : Chronicle (some row) records)
    (hversion : next.version = row.version + 1) (user : UserId) :
    Chronicle (some next) (⟨revision next .updated user, next, some row.version⟩ :: records) := by
  obtain ⟨n, hchanges, hn⟩ := h.standing row rfl
  refine ⟨?_, ?_, ?_⟩
  · rintro r hr
    cases hr
    refine ⟨n + 1, ?_, by omega⟩
    rw [changes_cons, hchanges, edited_succ]
    show edited n ++ [((.updated, next.version, some row.version) : Entry)] = _
    rw [hversion, hn]
  · rintro ⟨⟩
  · exact List.forall_mem_cons.2 ⟨⟨rfl, rfl⟩, h.snapshots⟩

theorem Chronicle.deleted {read current : AnnotationRow} {records : List Recorded}
    (h : Chronicle (some current) records) (hread : toPublic read = toPublic current) (user : UserId) :
    Chronicle none (⟨revision read .deleted user, current, none⟩ :: records) := by
  obtain ⟨n, hchanges, hn⟩ := h.standing current rfl
  have hversion : read.version = current.version := congrArg TajweedAnnotation.version hread
  refine ⟨?_, ?_, ?_⟩
  · rintro r ⟨⟩
  · refine fun _ => .inr ⟨n, ?_⟩
    rw [changes_cons, hchanges]
    show edited n ++ [((.deleted, read.version, none) : Entry)] = _
    rw [hversion, hn]
  · exact List.forall_mem_cons.2 ⟨⟨hread, hversion⟩, h.snapshots⟩

structure Inv (id : AnnotationId) (s : State) : Prop where
  keyed : ∀ k row, s.rows.get k = some row → row.id = k
  chronicle : Chronicle (s.rows.get id) (s.recordsOf id)

/-- Nothing has been done with the id yet. -/
structure Initial (id : AnnotationId) (s : State) : Prop where
  keyed : ∀ k row, s.rows.get k = some row → row.id = k
  fresh : s.rows.get id = none
  unrecorded : s.recordsOf id = []

theorem initial_inv {id : AnnotationId} {s : State} (h : Initial id s) : Inv id s := by
  refine ⟨h.keyed, ?_, ?_, ?_⟩
  · rw [h.fresh]
    rintro r ⟨⟩
  · exact fun _ => .inl h.unrecorded
  · rw [h.unrecorded]
    exact fun r hr => absurd hr List.not_mem_nil

theorem commit_insert_inv {id : AnnotationId} {s s' : State} {row : AnnotationRow} {user : UserId} (hs : Inv id s)
    (hnone : s.rows.get row.id = none) (hversion : row.version = 1)
    (hok : row.id = id → s.recordsOf id = []) (hrows : s'.rows = (s.commit (.insert row user)).rows)
    (hrecords : s'.records = (s.commit (.insert row user)).records) : Inv id s' := by
  have hget : ∀ k, s'.rows.get k = if k = row.id then some row else s.rows.get k := fun k => by
    rw [hrows]
    exact Table.get_insert hnone row k
  refine ⟨fun k r hr => ?_, ?_⟩
  · rw [hget] at hr
    split at hr
    · rename_i hk
      cases hr
      exact hk.symm
    · exact hs.keyed k r hr
  · rw [recordsOf_push hrecords id, hget]
    show Chronicle _ (if row.id = id then _ else _)
    by_cases hid : row.id = id
    · rw [if_pos hid, if_pos hid.symm, hok hid]
      exact Chronicle.created hversion user
    · rw [if_neg hid, if_neg (Ne.symm hid)]
      exact hs.chronicle

theorem commit_edit_inv {id k : AnnotationId} {s s' : State} {row next : AnnotationRow} {user : UserId} (hs : Inv id s)
    (hrow : s.rows.get k = some row) (hid : next.id = row.id) (hversion : next.version = row.version + 1)
    (hrows : s'.rows = (s.commit (.edit k row.version next user)).rows)
    (hrecords : s'.records = (s.commit (.edit k row.version next user)).records) : Inv id s' := by
  have hk : next.id = k := hid.trans (hs.keyed k row hrow)
  have hget : ∀ j, s'.rows.get j = if j = k then some next else s.rows.get j := fun j => by
    rw [hrows]
    show (s.rows.modify k fun _ => next).get j = _
    rw [Table.get_modify]
    split
    · rename_i hj
      rw [hj, hrow]
      rfl
    · rfl
  refine ⟨fun j r hr => ?_, ?_⟩
  · rw [hget] at hr
    split at hr
    · rename_i hj
      cases hr
      exact hk.trans hj.symm
    · exact hs.keyed j r hr
  · rw [recordsOf_push hrecords id, hget]
    show Chronicle _ (if next.id = id then _ else _)
    by_cases hj : next.id = id
    · have hchronicle := hs.chronicle
      rw [← hj, hk, hrow] at hchronicle
      rw [if_pos hj, if_pos (hj.symm.trans hk), ← hj, hk]
      exact hchronicle.updated hversion user
    · rw [if_neg hj, if_neg fun h => hj (hk.trans h.symm)]
      exact hs.chronicle

theorem commit_delete_inv {id : AnnotationId} {s s' : State} {read current : AnnotationRow} {user : UserId}
    (hs : Inv id s) (hcurrent : s.rows.get read.id = some current)
    (hok : read.id = id → toPublic read = toPublic current)
    (hrows : s'.rows = (s.commit (.delete read current user)).rows)
    (hrecords : s'.records = (s.commit (.delete read current user)).records) : Inv id s' := by
  have hgone : s'.rows.get read.id = none := by
    rw [hrows]
    exact Table.get_filter_self s.rows read.id
  have hkept : ∀ k, k ≠ read.id → s'.rows.get k = s.rows.get k := fun k hk => by
    rw [hrows]
    exact Table.get_filter_of_ne s.rows hk
  refine ⟨fun k r hr => ?_, ?_⟩
  · by_cases hk : k = read.id
    · rw [hk, hgone] at hr
      cases hr
    · rw [hkept k hk] at hr
      exact hs.keyed k r hr
  · rw [recordsOf_push hrecords id]
    show Chronicle _ (if read.id = id then _ else _)
    by_cases hid : read.id = id
    · have hchronicle := hs.chronicle
      rw [← hid, hcurrent, hid] at hchronicle
      rw [if_pos hid, ← hid, hgone, hid]
      exact hchronicle.deleted (hok hid) user
    · rw [if_neg hid, hkept id (Ne.symm hid)]
      exact hs.chronicle

theorem step_inv {quran : Quran} {id : AnnotationId} {s s' : State} {ev : Event} (hs : Inv id s)
    (hok : undisturbed id s ev = true) (h : step quran s ev = some s') : Inv id s' := by
  rcases step_cases h with ⟨hrows, hrecords⟩ | ⟨i, reply, call, w, rfl, hcall, hw, hrows, hrecords⟩
  · refine ⟨by rw [hrows]; exact hs.keyed, ?_⟩
    rw [hrows, recordsOf_congr hrecords]
    exact hs.chronicle
  · rcases act_write hw with ⟨user, courseId, dto, filed, rfl, haccepted, hnone, rfl⟩ |
      ⟨k, row, next, user, hrow, hid, hversion, rfl, -⟩ | ⟨user, read, current, rfl, haccepted, hcurrent, rfl⟩
    · refine commit_insert_inv hs hnone rfl (fun hid => ?_) hrows hrecords
      have hid' : dto.id = id := hid
      simpa [undisturbed, hcall, hid', haccepted, hid' ▸ hnone] using hok
    · exact commit_edit_inv hs hrow hid hversion hrows hrecords
    · refine commit_delete_inv hs hcurrent (fun hid => ?_) hrows hrecords
      simpa [undisturbed, hcall, hid, haccepted, hid ▸ hcurrent] using hok

/-! ## Complete and truthful -/

theorem edited_bases (n : Nat) : (edited n).filterMap (fun e => e.2.2) = (List.range n).map (· + 1) := by
  unfold edited
  rw [List.filterMap_cons, List.filterMap_map]
  show List.filterMap (some ∘ (· + 1)) (List.range n) = _
  rw [List.filterMap_eq_map]

theorem edited_nodup (n : Nat) : ((edited n).filterMap (fun e => e.2.2)).Nodup := by
  rw [edited_bases]
  exact List.nodup_range.map fun a b hab => Nat.succ_injective hab

/-- What is based on what, read off the changes. -/
theorem bases_eq (records : List Recorded) :
    records.filterMap (·.basedOn) = ((changes records).filterMap fun e => e.2.2).reverse := by
  unfold changes
  rw [List.filterMap_reverse, List.reverse_reverse, List.filterMap_map]
  rfl

theorem Chronicle.truthful {row : Option AnnotationRow} {records : List Recorded} (h : Chronicle row records) :
    Truthful records := by
  have horder : records = [] ∨ ∃ n, changes records = edited n ∨
      changes records = edited n ++ [(.deleted, n + 1, none)] := by
    cases row with
    | some r =>
      obtain ⟨n, hn, -⟩ := h.standing r rfl
      exact .inr ⟨n, .inl hn⟩
    | none =>
      rcases h.gone rfl with hnil | ⟨n, hn⟩
      · exact .inl hnil
      · exact .inr ⟨n, .inr hn⟩
  refine ⟨horder, ?_, h.snapshots⟩
  rw [bases_eq, List.nodup_reverse]
  rcases horder with rfl | ⟨n, hn | hn⟩
  · exact List.nodup_nil
  · rw [hn]
    exact edited_nodup n
  · rw [hn, List.filterMap_append]
    simpa using edited_nodup n

/-- In a truthful history nothing comes before the creation. -/
theorem created_first {r : Recorded} {records : List Recorded} (h : Truthful (r :: records))
    (hcreated : r.revision.change = .created) : records = [] := by
  have hlater : ∀ (n : Nat) (l : List Entry),
      l ++ [r.entry] ≠ (List.range n).map fun k => (.updated, k + 2, some (k + 1)) := fun n l heq => by
      have hmem : r.entry ∈ (List.range n).map fun k => ((.updated, k + 2, some (k + 1)) : Entry) := by
        rw [← heq]
        simp
      obtain ⟨k, -, hk⟩ := List.mem_map.1 hmem
      have hchange : r.revision.change = .updated := congrArg Prod.fst hk.symm
      rw [hcreated] at hchange
      cases hchange
  cases records with
  | nil => rfl
  | cons q rest =>
    exfalso
    obtain ⟨e, l, hl⟩ := List.exists_cons_of_ne_nil (l := changes (q :: rest)) (by rw [changes_cons]; simp)
    rcases h.order with hnil | ⟨n, hn | hn⟩
    · cases hnil
    · rw [changes_cons, hl] at hn
      exact hlater n l (List.cons.inj hn).2
    · rw [changes_cons] at hn
      have hlast : r.entry = (.deleted, n + 1, none) := by simpa using (List.append_inj' hn rfl).2
      have hchange : r.revision.change = .deleted := congrArg Prod.fst hlast
      rw [hcreated] at hchange
      cases hchange

/-- A step that does not meet the condition records what is not so. -/
theorem step_untruthful {quran : Quran} {id : AnnotationId} {s s' : State} {ev : Event}
    (hbad : undisturbed id s ev = false) (h : step quran s ev = some s') : ¬Truthful (s'.recordsOf id) := by
  intro htrue
  cases ev with
  | resume i reply =>
    obtain ⟨call, hcall, rfl⟩ := Option.map_eq_some_iff.1 h
    cases call with
    | inserting user courseId dto filed =>
      simp only [undisturbed, hcall, Bool.or_eq_false_iff, decide_eq_false_iff_not, ne_eq, not_not,
        Bool.not_eq_false'] at hbad
      obtain ⟨⟨⟨hid, haccepted⟩, habsent⟩, hrecords⟩ := hbad
      have hnone : s.rows.get dto.id = none := by
        rw [hid]
        simpa using habsent
      obtain ⟨row, hrow⟩ : ∃ row, row = newRow s.now user courseId dto filed := ⟨_, rfl⟩
      have hact : ((Call.inserting user courseId dto filed).act quran s reply).1 = some (.insert row user) := by
        simp only [Call.act]
        rw [if_pos haccepted, hnone, hrow]
      have hid : row.id = id := hrow ▸ hid
      rw [hact] at htrue
      have hpush : ∀ next, ((s.write (some (.insert row user))).goOn i next).records =
          ⟨revision row .created user, row, none⟩ :: s.records := fun next => goOn_records _ i next
      rw [(recordsOf_push (hpush _) id).trans (if_pos hid)] at htrue
      rw [created_first htrue rfl] at hrecords
      cases hrecords
    | deleting user read =>
      simp only [undisturbed, hcall, Bool.or_eq_false_iff, decide_eq_false_iff_not, ne_eq, not_not,
        Bool.not_eq_false'] at hbad
      obtain ⟨⟨hid, haccepted⟩, hdiffers⟩ := hbad
      cases hcurrent : s.rows.get id with
      | none =>
        rw [hcurrent] at hdiffers
        cases hdiffers
      | some current =>
        have hact : ((Call.deleting user read).act quran s reply).1 = some (.delete read current user) := by
          simp only [Call.act]
          rw [if_pos haccepted, hid, hcurrent]
        rw [hact] at htrue
        have hpush : ∀ next, ((s.write (some (.delete read current user))).goOn i next).records =
            ⟨revision read .deleted user, current, none⟩ :: s.records := fun next => goOn_records _ i next
        rw [(recordsOf_push (hpush _) id).trans (if_pos hid)] at htrue
        have hsame : toPublic read = toPublic current := (htrue.snapshots _ List.mem_cons_self).1
        simp [hcurrent, hsame] at hdiffers
    | _ => simp [undisturbed, hcall] at hbad
  | request i call => cases hbad
  | tick ms => cases hbad

/-- At every moment the history of an annotation is complete and truthful, exactly when each create that
goes through is of an id never used before and each deletion is of the annotation as it was read. -/
theorem history_truthful {quran : Quran} {id : AnnotationId} {s₀ s : State} {es : List Event}
    (hinit : Initial id s₀) (hrun : run (step quran) s₀ es = some s) :
    (∀ es₁ es₂ t, es = es₁ ++ es₂ → run (step quran) s₀ es₁ = some t → Truthful (t.recordsOf id)) ↔
      Meets (step quran) (fun s ev => undisturbed id s ev = true) s₀ es := by
  refine (meets_iff_of_keeps (fun _ _ _ hu hev h => step_inv hu hev h) (fun _ hu => hu.chronicle.truthful)
    (fun u ev u' _ h htrue => ?_) (initial_inv hinit) hrun).symm
  by_contra hbad
  exact step_untruthful (Bool.eq_false_iff.2 hbad) h htrue

namespace Example

/-- A text of one word of three letters in each ayah. -/
def oneWord : Quran := fun _ _ => some [3]

def dto : CreateDto where
  id := "mark"
  mode := .lesson
  sectionId := none
  sessionId := none
  studentId := none
  hifzEntryId := none
  parts := [⟨1, 1, some 0, none⟩]
  kept := none
  rule := some "ghunnah"
  customLabel := none
  style := none
  color := none
  note := none
  outcome := none

def editDto (version : Nat) : UpdateDto where
  version := version
  sessionId := none
  parts := none
  kept := some true
  rule := .absent
  customLabel := .absent
  style := none
  color := .absent
  note := .absent
  outcome := .absent

def reply : Reply := ⟨some "acme", none, true, true, true, true⟩

def unused : State := ⟨Table.empty, [], Pool.empty, 0, []⟩

def create (i : Nat) : List Event := .request i (.looking "zayd" "tajweed-1" dto) :: List.replicate 3 (.resume i reply)

def update (i version : Nat) : List Event :=
  [.request i (.finding "zayd" "tajweed-1" "mark" (editDto version)), .resume i reply, .resume i reply]

def findToRemove (i : Nat) : List Event :=
  [.request i (.findingToRemove "zayd" "tajweed-1" "mark" none), .resume i reply]

def delete (i : Nat) : List Event := [.resume i reply]

/-- An annotation is made, edited and removed. -/
def oneByOne : List Event := create 0 ++ update 1 1 ++ findToRemove 2 ++ delete 2

/-- The create is sent again after the deletion. -/
def resent : List Event := create 0 ++ findToRemove 1 ++ delete 1 ++ create 2

theorem unused_initial : Initial "mark" unused := ⟨fun _ _ h => (by cases h), rfl, rfl⟩

end Example

open Example in
theorem edited_then_removed : ∃ s, run (step oneWord) unused oneByOne = some s ∧
    (s.recordsOf "mark").map Recorded.entry = [(.deleted, 2, none), (.updated, 2, some 1), (.created, 1, none)] ∧
    Truthful (s.recordsOf "mark") := by
  have hrun : (run (step oneWord) unused oneByOne).map (fun s => (s.recordsOf "mark").map Recorded.entry) =
      some [(.deleted, 2, none), (.updated, 2, some 1), (.created, 1, none)] := by decide
  obtain ⟨s, hs, hentries⟩ := Option.map_eq_some_iff.1 hrun
  exact ⟨s, hs, hentries, (history_truthful unused_initial hs).2 (by decide) oneByOne [] s
    (List.append_nil _).symm hs⟩

open Example in
theorem resend_creates_again : ∃ s, run (step oneWord) unused resent = some s ∧
    (s.recordsOf "mark").map Recorded.entry = [(.created, 1, none), (.deleted, 1, none), (.created, 1, none)] ∧
    ¬Truthful (s.recordsOf "mark") := by
  have hrun : (run (step oneWord) unused resent).map (fun s => (s.recordsOf "mark").map Recorded.entry) =
      some [(.created, 1, none), (.deleted, 1, none), (.created, 1, none)] := by decide
  obtain ⟨s, hs, hentries⟩ := Option.map_eq_some_iff.1 hrun
  refine ⟨s, hs, hentries, fun htrue => ?_⟩
  obtain ⟨r, rest, hr, hentry, hrest⟩ := List.map_eq_cons_iff.1 hentries
  rw [hr] at htrue
  rw [created_first htrue (congrArg Prod.fst hentry)] at hrest
  cases hrest

end Livetich.Tajweed.History
