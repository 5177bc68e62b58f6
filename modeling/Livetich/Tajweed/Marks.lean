/-
What every stored Tajweed mark is: its parts are places of the text, once and in reading order, and what it says and
whom it is about are as its mode asks. `create`, `update` and `linkCorrectionsToRecitation` run one after another,
and what they are told of other tables is what those tables hold: the enrolments, the recitations, and the accounts
that a foreign key asks for.
-/
import Livetich.Tajweed.History

namespace Livetich.Tajweed.Marks

open TransSys Livetich.Lib History

/-! ## Other tables -/

/-- A recitation, of a student of the course. -/
structure Recitation where
  id : String
  courseId : CourseId
  studentId : UserId
  deriving DecidableEq

structure Site where
  history : History.State
  users : List UserId
  enrolled : List (CourseId × UserId)
  recitations : List Recitation
  /-- Whether the student of a mark was enrolled when it was made; no call reads this. -/
  wasEnrolled : AnnotationId → Bool

namespace Site

def isEnrolled (s : Site) (courseId : CourseId) (studentId : Option UserId) : Bool :=
  studentId.any fun student => s.enrolled.contains (courseId, student)

/-- The recitation is there, of this student in this course. -/
def hasRecitation (s : Site) (courseId : CourseId) (studentId entryId : Option String) : Bool :=
  s.recitations.any fun r => some r.id == entryId && r.courseId == courseId && some r.studentId == studentId

/-- The foreign keys of a row that is written. -/
def references (s : Site) (studentId entryId : Option String) : Bool :=
  studentId.all s.users.contains && entryId.all fun id => s.recitations.any (·.id == id)

/-- What a call is told by the other tables. -/
def answers (s : Site) (reply : Reply) : Call → Bool
  | .checking _ courseId dto => reply.enrolled == s.isEnrolled courseId dto.studentId &&
    reply.entryFound == s.hasRecitation courseId dto.studentId dto.hifzEntryId
  | .inserting _ _ dto _ => !reply.accepted || s.references dto.studentId dto.hifzEntryId
  | _ => true

/-- Calls come one after another; a link is asked for a recitation that has been saved. -/
def begins (s : Site) (call : Call) : Bool :=
  s.history.calls.entries.isEmpty && match call with
    | .listing entry => s.recitations.contains ⟨entry.id, entry.courseId, entry.studentId⟩
    | _ => true

def hears (s : Site) : History.Event → Bool
  | .request _ call => s.begins call
  | .resume i reply => (s.history.calls.get i).all (s.answers reply)
  | .tick _ => true

/-- A mark that is made is noted with whether its student is enrolled. -/
def note (s : Site) : History.Event → AnnotationId → Bool
  | .resume i reply => match s.history.calls.get i with
    | some (.inserting _ courseId dto _) =>
      if reply.accepted && (s.history.rows.get dto.id).isNone then
        Function.update s.wasEnrolled dto.id (s.isEnrolled courseId dto.studentId)
      else s.wasEnrolled
    | _ => s.wasEnrolled
  | _ => s.wasEnrolled

end Site

/-- The recitation of a mark is gone (`onDelete: SetNull`). -/
def unlink (id : String) (row : AnnotationRow) : AnnotationRow :=
  { row with hifzEntryId := row.hifzEntryId.filter (· != id) }

inductive Event
  | call (ev : History.Event)
  | register (user : UserId)
  | enroll (courseId : CourseId) (studentId : UserId)
  | unenroll (courseId : CourseId) (studentId : UserId)
  | recite (recitation : Recitation)
  | erase (id : String)

/-- Other tables change between the calls. Ids that the database hands out are new and not empty. -/
def step (quran : Quran) (s : Site) : Event → Option Site
  | .call ev =>
    if s.hears ev then
      (History.step quran s.history ev).map fun history => { s with history, wasEnrolled := s.note ev }
    else none
  | ev =>
    if s.history.calls.entries.isEmpty then
      match ev with
      | .call _ => none
      | .register user => if user = "" then none else some { s with users := user :: s.users }
      | .enroll courseId studentId => some { s with enrolled := (courseId, studentId) :: s.enrolled }
      | .unenroll courseId studentId => some { s with enrolled := s.enrolled.filter (· != (courseId, studentId)) }
      | .recite r =>
        if r.id = "" ∨ s.recitations.any (·.id == r.id) then none
        else some { s with recitations := r :: s.recitations }
      | .erase id => some
          { s with
            recitations := s.recitations.filter (·.id != id)
            history := { s.history with rows := s.history.rows.map (unlink id) } }
    else none

/-! ## Well formed -/

/-- A place in the text. -/
structure InText (quran : Quran) (part : Part) : Prop where
  surah : 1 ≤ part.surahNumber ∧ part.surahNumber ≤ 114
  ayah : 1 ≤ part.ayahNumber
  word : ∃ words, quran part.surahNumber part.ayahNumber = some words ∧ match part.wordIndex with
    | none => part.letterIndex = none
    | some word => ∃ letters, words[word]? = some letters ∧ ∀ letter ∈ part.letterIndex, letter < letters

structure PartsOk (quran : Quran) (parts : List Part) : Prop where
  some : parts ≠ []
  few : parts.length ≤ maxParts
  distinct : parts.Nodup
  ordered : parts.Pairwise fun a b => a.rank ≤ b.rank
  inText : ∀ part ∈ parts, InText quran part

structure ContentOk (mode : TajweedAnnotationMode) (c : Content) : Prop where
  known : ∀ rule ∈ c.rule, rule ∈ tajweedRuleKeys
  lesson : mode = .lesson → c.rule.isSome = true ∧ c.outcome = none
  correction : mode = .studentCorrection →
    c.outcome.isSome = true ∧ (c.outcome = some .tajweedIssue → c.rule.isSome = true)
  labelled : c.rule = some "custom" → ∃ label, c.customLabel = some label ∧ label ≠ ""

structure WellFormed (quran : Quran) (s : Site) (row : AnnotationRow) : Prop where
  parts : PartsOk quran row.parts
  filed : ∃ first, row.parts.head? = some first ∧ row.surahNumber = first.surahNumber ∧
    row.ayahNumber = first.ayahNumber
  content : ContentOk row.mode row.content
  lesson : row.mode = .lesson → row.studentId = none ∧ row.hifzEntryId = none
  correction : row.mode = .studentCorrection →
    row.studentId.isSome = true ∧ s.wasEnrolled row.id = true ∧ row.kept = false
  recitation : ∀ id ∈ row.hifzEntryId, ∃ r ∈ s.recitations,
    r.id = id ∧ r.courseId = row.courseId ∧ row.studentId = some r.studentId

/-! ## What the checks make sure of -/

theorem checkPart_ok {quran : Quran} {part : Part} (h : checkPart quran part = .ok ()) : InText quran part := by
  unfold checkPart at h
  obtain ⟨u, hsurah, h⟩ := bind_ok_iff.1 h
  rw [ensure_ok_iff] at hsurah
  obtain ⟨words, hwords, h⟩ := bind_ok_iff.1 h
  rw [orThrow_ok_iff] at hwords
  split at hwords
  · cases hwords
  · rename_i hayah
    refine ⟨hsurah, by omega, words, hwords, ?_⟩
    cases hword : part.wordIndex with
    | none =>
      rw [hword] at h
      exact ensure_ok_iff.1 h
    | some word =>
      rw [hword] at h
      obtain ⟨letters, hletters, h⟩ := bind_ok_iff.1 h
      refine ⟨letters, orThrow_ok_iff.1 hletters, fun letter hletter => ?_⟩
      rw [Option.mem_def] at hletter
      rw [hletter] at h
      exact ensure_ok_iff.1 h

theorem forM_ok {quran : Quran} : ∀ {parts : List Part}, parts.forM (checkPart quran) = .ok () →
    ∀ part ∈ parts, InText quran part
  | [], _, part, hpart => absurd hpart List.not_mem_nil
  | p :: rest, h, part, hpart => by
    obtain ⟨u, hp, h⟩ := bind_ok_iff.1 h
    rcases List.mem_cons.1 hpart with rfl | hpart
    · exact checkPart_ok hp
    · exact forM_ok h part hpart

/-- The parts that have been checked: there are some, and not more than were sent. -/
theorem checkParts_ok {quran : Quran} {parts checked : List Part} (h : checkParts quran parts = .ok checked) :
    PartsOk quran checked := by
  obtain ⟨u, hsome, h⟩ := bind_ok_iff.1 h
  rw [ensure_ok_iff] at hsome
  obtain ⟨u', hfew, h⟩ := bind_ok_iff.1 h
  rw [ensure_ok_iff] at hfew
  obtain ⟨u'', hplaces, h⟩ := bind_ok_iff.1 h
  cases h
  have hperm := List.perm_insertionSort (fun a b : Part => a.rank ≤ b.rank) parts.reverse.dedup.reverse
  have hmem : ∀ part, part ∈ parts.reverse.dedup.reverse ↔ part ∈ parts := fun part => by simp
  refine ⟨fun hnil => hsome ?_, ?_, ?_, ?_, fun part hpart => ?_⟩
  · rw [List.eq_nil_iff_forall_not_mem]
    intro part hpart
    have := hperm.mem_iff.2 ((hmem part).2 hpart)
    rw [hnil] at this
    cases this
  · rw [hperm.length_eq, List.length_reverse]
    exact ((List.dedup_sublist _).length_le.trans_eq List.length_reverse).trans hfew
  · exact hperm.nodup_iff.2 (List.nodup_reverse.2 (List.nodup_dedup _))
  · have htotal : Std.Total fun a b : Part => a.rank ≤ b.rank := ⟨fun a b => le_total a.rank b.rank⟩
    have htrans : IsTrans Part fun a b => a.rank ≤ b.rank := ⟨fun _ _ _ hab hbc => le_trans hab hbc⟩
    exact List.pairwise_insertionSort _ _
  · exact forM_ok hplaces part ((hmem part).1 (hperm.mem_iff.1 hpart))

theorem cleanText_ne {value : Option String} {max : Nat} {text : String} (h : cleanText value max = some text) :
    text ≠ "" := by
  have := (Option.filter_eq_some_iff.1 h).2
  simpa using this

/-- The last check, and what is stored. -/
theorem labelled_ok {input c : Content}
    (h : (ensure (¬(input.rule = some "custom" ∧ cleanText input.customLabel 60 = none))
        (HttpError.badRequest "Give the custom note a label") >>= fun _ =>
      pure { input with customLabel := cleanText input.customLabel 60, note := cleanText input.note 1000 }) = .ok c) :
    c.rule = input.rule ∧ c.outcome = input.outcome ∧
      (c.rule = some "custom" → ∃ label, c.customLabel = some label ∧ label ≠ "") := by
  obtain ⟨u, hlabel, h⟩ := bind_ok_iff.1 h
  rw [ensure_ok_iff] at hlabel
  cases h
  refine ⟨rfl, rfl, fun hcustom => ?_⟩
  cases hclean : cleanText input.customLabel 60 with
  | none => exact absurd ⟨hcustom, hclean⟩ hlabel
  | some label => exact ⟨label, rfl, cleanText_ne hclean⟩

theorem contentOf_ok {input c : Content} {mode : TajweedAnnotationMode} (h : contentOf input mode = .ok c) :
    ContentOk mode c := by
  obtain ⟨u, hknown, h⟩ := bind_ok_iff.1 h
  rw [ensure_ok_iff] at hknown
  have hrules : ∀ rule ∈ input.rule, rule ∈ tajweedRuleKeys := fun rule hrule => by
    rw [Option.mem_def] at hrule
    rw [hrule] at hknown
    simpa using hknown
  cases mode with
  | lesson =>
    obtain ⟨u, hrule, h⟩ := bind_ok_iff.1 h
    rw [ensure_ok_iff] at hrule
    obtain ⟨u', houtcome, h⟩ := bind_ok_iff.1 h
    rw [ensure_ok_iff] at houtcome
    obtain ⟨hr, ho, hlabel⟩ := labelled_ok h
    refine ⟨by rw [hr]; exact hrules, fun _ => ?_, by rintro ⟨⟩, hlabel⟩
    rw [hr, ho]
    exact ⟨hrule, houtcome⟩
  | studentCorrection =>
    obtain ⟨u, houtcome, h⟩ := bind_ok_iff.1 h
    rw [ensure_ok_iff] at houtcome
    obtain ⟨u', hissue, h⟩ := bind_ok_iff.1 h
    rw [ensure_ok_iff] at hissue
    obtain ⟨hr, ho, hlabel⟩ := labelled_ok h
    refine ⟨by rw [hr]; exact hrules, by rintro ⟨⟩, fun _ => ?_, hlabel⟩
    rw [hr, ho]
    refine ⟨houtcome, fun hi => ?_⟩
    cases hrule : input.rule with
    | none => exact absurd ⟨hi, hrule⟩ hissue
    | some rule => rfl

/-- What a create has made sure of before it inserts. -/
structure FiledOk (quran : Quran) (dto : CreateDto) (filed : Filed) (enrolled entryFound : Bool) : Prop where
  parts : PartsOk quran filed.parts
  content : ContentOk dto.mode filed.content
  lesson : dto.mode = .lesson → given dto.studentId = none ∧ given dto.hifzEntryId = none
  correction : dto.mode = .studentCorrection → given dto.studentId ≠ none ∧ enrolled = true
  entry : given dto.hifzEntryId = none ∨ entryFound = true

theorem checkCreate_ok {quran : Quran} {reply : Reply} {dto : CreateDto} {filed : Filed}
    (h : checkCreate quran reply dto = .ok filed) : FiledOk quran dto filed reply.enrolled reply.entryFound := by
  obtain ⟨organizationId, -, h⟩ := bind_ok_iff.1 h
  obtain ⟨parts, hparts, h⟩ := bind_ok_iff.1 h
  obtain ⟨content, hcontent, h⟩ := bind_ok_iff.1 h
  have hlast : ∀ {k : Except HttpError Filed}, k = .ok filed →
      k = (do
        let sectionId ← resolveSection reply dto.sectionId dto.sessionId
        ensure (given dto.hifzEntryId = none ∨ reply.entryFound = true)
          (.notFound "That recitation is not this student's in this course")
        return ⟨organizationId, sectionId, parts, content⟩) →
      (given dto.hifzEntryId = none ∨ reply.entryFound = true) ∧
        filed.parts = parts ∧ filed.content = content := by
    rintro k hk rfl
    obtain ⟨sectionId, -, hk⟩ := bind_ok_iff.1 hk
    obtain ⟨u, hentry, hk⟩ := bind_ok_iff.1 hk
    cases hk
    exact ⟨ensure_ok_iff.1 hentry, rfl, rfl⟩
  have hp := checkParts_ok hparts
  have hc := contentOf_ok hcontent
  cases hmode : dto.mode with
  | lesson =>
    rw [hmode] at h
    obtain ⟨u, hlesson, h⟩ := bind_ok_iff.1 h
    obtain ⟨hentry, rfl, rfl⟩ := hlast h rfl
    exact ⟨hp, hc, fun _ => ensure_ok_iff.1 hlesson, fun hm => (by rw [hmode] at hm; cases hm), hentry⟩
  | studentCorrection =>
    rw [hmode] at h
    obtain ⟨u, hstudent, h⟩ := bind_ok_iff.1 h
    obtain ⟨u', henrolled, h⟩ := bind_ok_iff.1 h
    obtain ⟨hentry, rfl, rfl⟩ := hlast h rfl
    exact ⟨hp, hc, fun hm => (by rw [hmode] at hm; cases hm),
      fun _ => ⟨ensure_ok_iff.1 hstudent, ensure_ok_iff.1 henrolled⟩, hentry⟩

/-- What an edit of a mark of the mode has made sure of. -/
structure EditOk (quran : Quran) (mode : TajweedAnnotationMode) (edit : Edit) : Prop where
  parts : ∀ parts ∈ edit.parts, PartsOk quran parts
  content : ContentOk mode edit.content
  kept : mode = .studentCorrection → edit.kept = false

theorem editOf_ok {quran : Quran} {row : AnnotationRow} {dto : UpdateDto} {edit : Edit}
    (h : editOf quran row dto = .ok edit) : EditOk quran row.mode edit := by
  unfold editOf at h
  cases hdto : dto.parts with
  | none =>
    rw [hdto] at h
    obtain ⟨parts, hparts, h⟩ := bind_ok_iff.1 h
    cases hparts
    obtain ⟨content, hcontent, h⟩ := bind_ok_iff.1 h
    cases h
    refine ⟨by rintro parts ⟨⟩, contentOf_ok hcontent, fun hm => ?_⟩
    simp only [hm]
  | some sent =>
    rw [hdto] at h
    obtain ⟨parts, hparts, h⟩ := bind_ok_iff.1 h
    obtain ⟨content, hcontent, h⟩ := bind_ok_iff.1 h
    cases h
    refine ⟨fun ps hps => ?_, contentOf_ok hcontent, fun hm => ?_⟩
    · cases hchecked : checkParts quran sent with
      | error e =>
        rw [hchecked] at hparts
        cases hparts
      | ok checked =>
        rw [hchecked] at hparts
        cases hparts
        cases hps
        exact checkParts_ok hchecked
    · simp only [hm]

/-! ## What the calls know -/

/-- A correction of the student whose recitation it is linked to. -/
def IsHeard (s : Site) (entry : HifzEntry) (id : AnnotationId) : Prop :=
  ∃ row, s.history.rows.get id = some row ∧ row.mode = .studentCorrection ∧ row.courseId = entry.courseId ∧
    row.studentId = some entry.studentId

def IsSaved (s : Site) (entry : HifzEntry) : Prop := ⟨entry.id, entry.courseId, entry.studentId⟩ ∈ s.recitations

def CallOk (quran : Quran) (s : Site) : Call → Prop
  | .inserting _ courseId dto filed => FiledOk quran dto filed (s.isEnrolled courseId dto.studentId)
    (s.hasRecitation courseId dto.studentId dto.hifzEntryId)
  | .notifying _ _ row _ => s.history.rows.get row.id = some row
  | .editing _ _ id _ edit => ∃ row, s.history.rows.get id = some row ∧ EditOk quran row.mode edit
  | .listing entry => IsSaved s entry
  | .linking entry id _ rest _ => IsSaved s entry ∧ IsHeard s entry id ∧ ∀ k ∈ rest, IsHeard s entry k.1
  | _ => True

def NextOk (quran : Quran) (s : Site) : Next → Prop
  | .goes call => CallOk quran s call
  | .ends _ => True

structure Inv (quran : Quran) (s : Site) : Prop where
  keyed : ∀ k row, s.history.rows.get k = some row → row.id = k
  rows : ∀ k row, s.history.rows.get k = some row → WellFormed quran s row
  alone : ∀ i j c d, s.history.calls.get i = some c → s.history.calls.get j = some d → i = j
  calls : ∀ i c, s.history.calls.get i = some c → CallOk quran s c
  users : "" ∉ s.users
  recitations : ∀ r ∈ s.recitations, r.id ≠ ""

/-- No mark has been made and no call is under way. -/
structure Initial (s : Site) : Prop where
  rows : s.history.rows = Table.empty
  calls : ∀ i, s.history.calls.get i = none
  users : "" ∉ s.users
  recitations : ∀ r ∈ s.recitations, r.id ≠ ""

theorem initial_inv {quran : Quran} {s : Site} (h : Initial s) : Inv quran s := by
  refine ⟨fun k row hrow => ?_, fun k row hrow => ?_, fun i j c d hc => ?_, fun i c hc => ?_, h.users,
    h.recitations⟩
  · rw [h.rows] at hrow
    cases hrow
  · rw [h.rows] at hrow
    cases hrow
  · rw [h.calls] at hc
    cases hc
  · rw [h.calls] at hc
    cases hc

theorem linkNext_ok {quran : Quran} {s : Site} {entry : HifzEntry} {linked : Nat} (hsaved : IsSaved s entry) :
    ∀ {rest : List (AnnotationId × Nat)}, (∀ k ∈ rest, IsHeard s entry k.1) →
      NextOk quran s (linkNext entry linked rest)
  | [], _ => trivial
  | (_, _) :: _, h => ⟨hsaved, h _ List.mem_cons_self, fun k hk => h k (List.mem_cons_of_mem _ hk)⟩

theorem prepare_ok {quran : Quran} {s : Site} {user : UserId} {courseId : CourseId} {row : AnnotationRow}
    {dto : UpdateDto} (hrow : s.history.rows.get row.id = some row) :
    NextOk quran s (prepare quran user courseId row dto) := by
  unfold prepare
  cases hedit : editOf quran row dto with
  | error e => trivial
  | ok edit => exact ⟨row, hrow, editOf_ok hedit⟩

theorem find_ok {s : History.State} {courseId : CourseId} {id : AnnotationId} {row : AnnotationRow}
    (h : find s courseId id = .ok row) : s.rows.get id = some row :=
  (Option.filter_eq_some_iff.1 (orThrow_ok_iff.1 h)).1

theorem toLink_heard {s : Site} {entry : HifzEntry} {sessionId : SessionId} :
    ∀ k ∈ toLink s.history entry sessionId, IsHeard s entry k.1 := by
  intro k hk
  unfold toLink at hk
  obtain ⟨⟨id, row⟩, hmem, rfl⟩ := List.mem_map.1 hk
  obtain ⟨hmem, hrow⟩ := List.mem_filter.1 hmem
  have hrow := of_decide_eq_true hrow
  exact ⟨row, Table.get_of_mem hmem, hrow.2.2.2.1, hrow.1, hrow.2.1⟩

/-- How a call that writes nothing goes on. -/
theorem act_next {quran : Quran} {s : Site} {reply : Reply} {i : Nat} {call : Call} (hs : Inv quran s)
    (hcall : s.history.calls.get i = some call) (hreply : s.answers reply call = true)
    (hw : (call.act quran s.history reply).1 = none) : NextOk quran s (call.act quran s.history reply).2 := by
  have hok := hs.calls i call hcall
  cases call with
  | looking user courseId dto =>
    simp only [Call.act]
    split <;> trivial
  | checking user courseId dto =>
    simp only [Call.act]
    cases hcheck : checkCreate quran reply dto with
    | error e => trivial
    | ok filed =>
      obtain ⟨henrolled, hentry⟩ := Bool.and_eq_true_iff.1 hreply
      show FiledOk quran dto filed _ _
      rw [← beq_iff_eq.1 henrolled, ← beq_iff_eq.1 hentry]
      exact checkCreate_ok hcheck
  | inserting user courseId dto filed =>
    simp only [Call.act] at hw ⊢
    split
    · split
      · trivial
      · trivial
    · trivial
  | relooking user courseId dto =>
    simp only [Call.act]
    split <;> trivial
  | finding user courseId id dto =>
    simp only [Call.act]
    cases hfind : find s.history courseId id with
    | error e => trivial
    | ok row =>
      have hrow := find_ok hfind
      have hid := hs.keyed id row hrow
      rw [← hid] at hrow
      simp only
      split
      · trivial
      · split
        · exact prepare_ok hrow
        · exact hrow
  | notifying user courseId row dto =>
    simp only [Call.act]
    split
    · exact prepare_ok hok
    · trivial
  | editing user courseId id version edit =>
    simp only [Call.act]
    split
    · split
      · split <;> trivial
      · trivial
    · trivial
  | findingToRemove user courseId id sessionId =>
    simp only [Call.act]
    split
    · trivial
    · split <;> trivial
  | notifyingRemoval user row =>
    simp only [Call.act]
    split <;> trivial
  | deleting user row =>
    simp only [Call.act]
    split
    · split <;> trivial
    · trivial
  | listing entry =>
    simp only [Call.act]
    split
    · trivial
    · exact linkNext_ok hok toLink_heard
  | linking entry id version rest linked =>
    simp only [Call.act] at hw ⊢
    split
    · split
      · split
        · rename_i haccepted _ row hrow hmatch
          simp only [haccepted, hrow, if_true, if_pos hmatch] at hw
          cases hw
        · exact linkNext_ok hok.1 hok.2.2
      · exact linkNext_ok hok.1 hok.2.2
    · trivial

/-! ## What is written -/

theorem WellFormed.mono {quran : Quran} {s t : Site} {row : AnnotationRow} (h : WellFormed quran s row)
    (hrecitations : ∀ r ∈ s.recitations, some r.id = row.hifzEntryId → r ∈ t.recitations)
    (hwas : t.wasEnrolled row.id = s.wasEnrolled row.id) : WellFormed quran t row := by
  refine ⟨h.parts, h.filed, h.content, h.lesson, fun hm => ?_, fun id hid => ?_⟩
  · rw [hwas]
    exact h.correction hm
  · obtain ⟨r, hr, hrid, hof⟩ := h.recitation id hid
    refine ⟨r, hrecitations r hr ?_, hrid, hof⟩
    rw [hrid, hid]

/-- A mark is filed under the ayah of its first part. -/
theorem filed_of_parts {quran : Quran} {parts : List Part} (h : PartsOk quran parts) :
    ∃ first, parts.head? = some first ∧ (firstAyahOf parts).1 = first.surahNumber ∧
      (firstAyahOf parts).2 = first.ayahNumber := by
  cases parts with
  | nil => exact absurd rfl h.some
  | cons first rest => exact ⟨first, rfl, rfl, rfl⟩

theorem given_eq_none {x : Option String} (h : given x = none) : x = none ∨ x = some "" := by
  cases x with
  | none => exact .inl rfl
  | some text =>
    refine .inr ?_
    by_contra hne
    have hsome : given (some text) = some text := Option.filter_eq_some_iff.2 ⟨rfl, by simpa using hne⟩
    rw [hsome] at h
    cases h

/-- An empty id is no row's. -/
theorem none_of_references {quran : Quran} {s : Site} (hs : Inv quran s) {studentId entryId : Option String}
    (h : s.references studentId entryId = true) :
    (given studentId = none → studentId = none) ∧ (given entryId = none → entryId = none) := by
  obtain ⟨hstudent, hentry⟩ := Bool.and_eq_true_iff.1 h
  constructor
  · intro hnone
    rcases given_eq_none hnone with rfl | rfl
    · rfl
    · exact absurd (List.contains_iff_mem.1 hstudent) hs.users
  · intro hnone
    rcases given_eq_none hnone with rfl | rfl
    · rfl
    · obtain ⟨r, hr, hid⟩ := List.any_eq_true.1 hentry
      exact absurd (beq_iff_eq.1 hid) (hs.recitations r hr)

theorem newRow_kept {now : Nat} {user : UserId} {courseId : CourseId} {dto : CreateDto} {filed : Filed}
    (h : dto.mode = .studentCorrection) : (newRow now user courseId dto filed).kept = false := by
  unfold newRow
  simp only [h]

theorem newRow_wellFormed {quran : Quran} {s t : Site} (hs : Inv quran s) {user : UserId} {courseId : CourseId}
    {dto : CreateDto} {filed : Filed} (hok : CallOk quran s (.inserting user courseId dto filed))
    (hreferences : s.references dto.studentId dto.hifzEntryId = true) (ht : t.recitations = s.recitations)
    (hwas : t.wasEnrolled dto.id = s.isEnrolled courseId dto.studentId) :
    WellFormed quran t (newRow s.history.now user courseId dto filed) := by
  have hok : FiledOk quran dto filed _ _ := hok
  obtain ⟨hnostudent, hnoentry⟩ := none_of_references hs hreferences
  obtain ⟨first, hfirst, hsurah, hayah⟩ := filed_of_parts hok.parts
  refine ⟨hok.parts, ⟨first, hfirst, hsurah, hayah⟩, hok.content, fun hm => ?_, fun hm => ?_, fun id hid => ?_⟩
  · obtain ⟨hstudent, hentry⟩ := hok.lesson hm
    exact ⟨hnostudent hstudent, hnoentry hentry⟩
  · obtain ⟨hstudent, henrolled⟩ := hok.correction hm
    refine ⟨?_, hwas.trans henrolled, ?_⟩
    · cases hdto : dto.studentId with
      | none =>
        rw [hdto] at hstudent
        exact absurd rfl hstudent
      | some student => exact (congrArg Option.isSome hdto : _)
    · exact newRow_kept hm
  · have hid : dto.hifzEntryId = some id := hid
    rcases hok.entry with hnone | hfound
    · rw [hnoentry hnone] at hid
      cases hid
    · obtain ⟨r, hr, hmatch⟩ := List.any_eq_true.1 hfound
      simp only [hid, Bool.and_eq_true, beq_iff_eq, Option.some.injEq] at hmatch
      exact ⟨r, ht ▸ hr, hmatch.1.1, hmatch.1.2, hmatch.2.symm⟩

theorem editRow_wellFormed {quran : Quran} {s : Site} {row : AnnotationRow} (h : WellFormed quran s row) {edit : Edit}
    (hedit : EditOk quran row.mode edit) (now : Nat) (user : UserId) :
    WellFormed quran s (editRow now user edit row) := by
  refine ⟨?_, ?_, hedit.content, h.lesson, fun hm => ?_, h.recitation⟩
  · show PartsOk quran (edit.parts.getD row.parts)
    cases hparts : edit.parts with
    | none => exact h.parts
    | some parts => exact hedit.parts parts hparts
  · show ∃ first, (edit.parts.getD row.parts).head? = some first ∧ (edit.parts.map _).getD _ = _ ∧
      (edit.parts.map _).getD _ = _
    cases hparts : edit.parts with
    | none => exact h.filed
    | some parts => exact filed_of_parts (hedit.parts parts hparts)
  · obtain ⟨hstudent, hwas, -⟩ := h.correction hm
    exact ⟨hstudent, hwas, hedit.kept hm⟩

theorem linkRow_wellFormed {quran : Quran} {s : Site} {row : AnnotationRow} (h : WellFormed quran s row)
    {entry : HifzEntry} (hsaved : IsSaved s entry) (hmode : row.mode = .studentCorrection)
    (hcourse : row.courseId = entry.courseId) (hstudent : row.studentId = some entry.studentId) (now : Nat) :
    WellFormed quran s (linkRow now entry row) := by
  refine ⟨h.parts, h.filed, h.content, fun hm => ?_, h.correction, ?_⟩
  · rw [show row.mode = .lesson from hm] at hmode
    cases hmode
  · rintro id ⟨⟩
    exact ⟨_, hsaved, rfl, hcourse.symm, hstudent⟩

/-! ## What the steps keep -/

@[simp] theorem write_calls (s : History.State) (write : Option Write) : (s.write write).calls = s.calls := by
  cases write with
  | none => rfl
  | some w => cases w <;> rfl

/-- The one call under way goes on, or ends, after what it writes. -/
theorem Inv.goOn {quran : Quran} {s : Site} (hs : Inv quran s) {i : Nat} {call : Call}
    (hcall : s.history.calls.get i = some call) {write : Option Write} {next : Next} {was : AnnotationId → Bool}
    (hrows : ∀ k row, (s.history.write write).rows.get k = some row →
      row.id = k ∧ WellFormed quran { s with wasEnrolled := was } row)
    (hnext : NextOk quran { s with history := s.history.write write } next) :
    Inv quran { s with history := (s.history.write write).goOn i next, wasEnrolled := was } := by
  have hsame : ((s.history.write write).goOn i next).rows = (s.history.write write).rows := goOn_rows ..
  have hget : ∀ j d, ((s.history.write write).goOn i next).calls.get j = some d → j = i ∧ next = .goes d := by
    intro j d hd
    cases next with
    | goes call' =>
      rcases Pool.get_put_cases hd with ⟨hj, hnew⟩ | ⟨hj, hd⟩
      · exact ⟨hj, by rw [Option.some.inj hnew]⟩
      · rw [write_calls] at hd
        exact absurd (hs.alone j i d call hd hcall) hj
    | ends answer =>
      rcases Pool.get_put_cases hd with ⟨-, hnone⟩ | ⟨hj, hd⟩
      · cases hnone
      · rw [write_calls] at hd
        exact absurd (hs.alone j i d call hd hcall) hj
  refine ⟨fun k row hrow => ?_, fun k row hrow => ?_, fun j l c d hc hd => ?_, fun j d hd => ?_, hs.users,
    hs.recitations⟩
  · exact (hrows k row (hsame ▸ hrow)).1
  · exact (hrows k row (hsame ▸ hrow)).2.mono (fun r hr _ => hr) rfl
  · exact (hget j c hc).1.trans (hget l d hd).1.symm
  · obtain ⟨-, rfl⟩ := hget j d hd
    exact hnext

theorem get_modify_const {t : Table AnnotationId AnnotationRow} {id k : AnnotationId} {next row : AnnotationRow}
    (h : (t.modify id fun _ => next).get k = some row) : (k = id ∧ row = next) ∨ t.get k = some row := by
  rw [Table.get_modify] at h
  split at h
  · rename_i hk
    obtain ⟨old, -, rfl⟩ := Option.map_eq_some_iff.1 h
    exact .inl ⟨hk, rfl⟩
  · exact .inr h

/-- One row is written anew, by an edit or a link. -/
theorem rows_of_edit {quran : Quran} {s : Site} (hs : Inv quran s) {id : AnnotationId} {base : Nat}
    {row next : AnnotationRow} {user : UserId} (hrow : s.history.rows.get id = some row) (hid : next.id = row.id)
    (hnext : WellFormed quran s next) {was : AnnotationId → Bool} (hwas : was = s.wasEnrolled) :
    ∀ k r, (s.history.write (some (.edit id base next user))).rows.get k = some r →
      r.id = k ∧ WellFormed quran { s with wasEnrolled := was } r := by
  subst hwas
  intro k r hr
  rcases get_modify_const hr with ⟨rfl, rfl⟩ | hr
  · exact ⟨hid.trans (hs.keyed _ _ hrow), hnext⟩
  · exact ⟨hs.keyed k r hr, hs.rows k r hr⟩

theorem rows_of_none {quran : Quran} {s : Site} (hs : Inv quran s) {was : AnnotationId → Bool}
    (hwas : was = s.wasEnrolled) : ∀ k r, (s.history.write none).rows.get k = some r →
      r.id = k ∧ WellFormed quran { s with wasEnrolled := was } r := by
  subst hwas
  exact fun k r hr => ⟨hs.keyed k r hr, hs.rows k r hr⟩

theorem note_of {s : Site} {i : Nat} {reply : Reply} {call : Call} (hcall : s.history.calls.get i = some call)
    (h : ∀ user courseId dto filed, call ≠ .inserting user courseId dto filed) :
    s.note (.resume i reply) = s.wasEnrolled := by
  unfold Site.note
  simp only [hcall]
  cases call with
  | inserting user courseId dto filed => exact absurd rfl (h user courseId dto filed)
  | _ => rfl

theorem resume_inv {quran : Quran} {s : Site} (hs : Inv quran s) {i : Nat} {reply : Reply} {call : Call}
    (hcall : s.history.calls.get i = some call) (hreply : s.answers reply call = true) :
    Inv quran
      { s with
        history := (s.history.write (call.act quran s.history reply).1).goOn i (call.act quran s.history reply).2
        wasEnrolled := s.note (.resume i reply) } := by
  have hok := hs.calls i call hcall
  cases hw : (call.act quran s.history reply).1 with
  | none =>
    have hwas : s.note (.resume i reply) = s.wasEnrolled := by
      unfold Site.note
      simp only [hcall]
      cases call with
      | inserting user courseId dto filed =>
        simp only [Call.act] at hw ⊢
        split
        · rename_i hinsert
          obtain ⟨haccepted, hfree⟩ := Bool.and_eq_true_iff.1 hinsert
          rw [if_pos haccepted, Option.isNone_iff_eq_none.1 hfree] at hw
          cases hw
        · rfl
      | _ => rfl
    exact hs.goOn hcall (rows_of_none hs hwas) (act_next hs hcall hreply hw)
  | some w =>
    rcases act_write hw with ⟨user, courseId, dto, filed, rfl, haccepted, hnone, rfl⟩ |
      ⟨id, row, next, user, hrow, -, -, rfl, hwho⟩ | ⟨user, read, current, rfl, haccepted, hcurrent, rfl⟩
    · have hwas : s.note (.resume i reply) =
          Function.update s.wasEnrolled dto.id (s.isEnrolled courseId dto.studentId) := by
        unfold Site.note
        simp only [hcall, haccepted, hnone, Option.isNone_none, Bool.and_self, if_true]
      have hreferences : s.references dto.studentId dto.hifzEntryId = true := by
        simpa [Site.answers, haccepted] using hreply
      refine hs.goOn hcall (fun k r hr => ?_) (by simp only [Call.act, haccepted, hnone, if_true]; trivial)
      rw [show (s.history.write (some (.insert (newRow s.history.now user courseId dto filed) user))).rows =
        s.history.rows.insert dto.id (newRow s.history.now user courseId dto filed) from rfl,
        Table.get_insert hnone] at hr
      split at hr
      · rename_i hk
        cases hr
        exact ⟨hk.symm, newRow_wellFormed hs hok hreferences rfl (by rw [hwas]; exact Function.update_self ..)⟩
      · rename_i hk
        refine ⟨hs.keyed k r hr, (hs.rows k r hr).mono (fun _ h _ => h) ?_⟩
        rw [hs.keyed k r hr]
        show s.note (.resume i reply) k = _
        rw [hwas, Function.update_of_ne hk]
    · rcases hwho with ⟨courseId, edit, rfl, rfl, hnext⟩ | ⟨entry, rest, linked, rfl, rfl, hnext⟩
      · obtain ⟨row', hrow', hedit⟩ := hok
        rw [hrow] at hrow'
        cases hrow'
        rw [hnext]
        have hid : (editRow s.history.now user edit row).id = row.id := rfl
        exact hs.goOn hcall (rows_of_edit hs hrow hid (editRow_wellFormed (hs.rows _ _ hrow) hedit _ _)
          (note_of hcall (by rintro _ _ _ _ ⟨⟩))) trivial
      · obtain ⟨hsaved, ⟨row', hrow', hmode, hcourse, hstudent⟩, hrest⟩ := hok
        rw [hrow] at hrow'
        cases hrow'
        rw [hnext]
        have hid : (linkRow s.history.now entry row).id = row.id := rfl
        refine hs.goOn hcall (rows_of_edit hs hrow hid (linkRow_wellFormed (hs.rows _ _ hrow) hsaved hmode hcourse
          hstudent _) (note_of hcall (by rintro _ _ _ _ ⟨⟩))) ?_
        refine linkNext_ok ?_ fun k hk => ?_
        · exact hsaved
        -- The marks still to link are as they were, but for the one that has been.
        obtain ⟨r, hr, hrmode, hrcourse, hrstudent⟩ := hrest k hk
        by_cases hkid : k.1 = id
        · refine ⟨linkRow s.history.now entry row, ?_, hmode, hcourse, hstudent⟩
          show (s.history.rows.modify id fun _ => _).get k.1 = _
          rw [hkid, Table.get_modify_self, hrow]
          rfl
        · refine ⟨r, ?_, hrmode, hrcourse, hrstudent⟩
          show (s.history.rows.modify id fun _ => _).get k.1 = _
          rw [Table.get_modify_of_ne _ _ hkid, hr]
    · refine hs.goOn hcall (fun k r hr => ?_) (by simp only [Call.act, haccepted, hcurrent, if_true]; trivial)
      have hr : s.history.rows.get k = some r := (Table.get_filter.1 hr).1
      refine ⟨hs.keyed k r hr, (hs.rows k r hr).mono (fun _ h _ => h) ?_⟩
      exact congrFun (note_of hcall (by rintro _ _ _ _ ⟨⟩)) r.id

theorem no_calls {p : Pool Call} (h : p.entries.isEmpty = true) (i : Nat) : p.get i = none := by
  unfold Pool.get
  rw [List.isEmpty_iff.1 h]
  rfl

/-- Other tables change while no call is under way. -/
theorem Inv.of_idle {quran : Quran} {s t : Site} (hidle : s.history.calls.entries.isEmpty = true)
    (hcalls : t.history.calls = s.history.calls)
    (hrows : ∀ k row, t.history.rows.get k = some row → row.id = k ∧ WellFormed quran t row)
    (husers : "" ∉ t.users) (hrecitations : ∀ r ∈ t.recitations, r.id ≠ "") : Inv quran t := by
  have hnone : ∀ i, t.history.calls.get i = none := fun i => by
    rw [hcalls]
    exact no_calls hidle i
  refine ⟨fun k row hrow => (hrows k row hrow).1, fun k row hrow => (hrows k row hrow).2, fun i j c d hc => ?_,
    fun i c hc => ?_, husers, hrecitations⟩
  · rw [hnone] at hc
    cases hc
  · rw [hnone] at hc
    cases hc

theorem unlink_wellFormed {quran : Quran} {s t : Site} {row : AnnotationRow} {id : String}
    (h : WellFormed quran s row) (ht : t.recitations = s.recitations.filter (·.id != id))
    (hwas : t.wasEnrolled = s.wasEnrolled) : WellFormed quran t (unlink id row) := by
  refine ⟨h.parts, h.filed, h.content, fun hm => ?_, fun hm => ?_, fun other hother => ?_⟩
  · obtain ⟨hstudent, hentry⟩ := h.lesson hm
    refine ⟨hstudent, ?_⟩
    show row.hifzEntryId.filter _ = none
    rw [hentry]
    rfl
  · rw [hwas]
    exact h.correction hm
  · obtain ⟨hother, hne⟩ := Option.filter_eq_some_iff.1 hother
    obtain ⟨r, hr, hrid, hof⟩ := h.recitation other hother
    refine ⟨r, ?_, hrid, hof⟩
    rw [ht, List.mem_filter]
    exact ⟨hr, by rw [hrid]; exact hne⟩

theorem call_inv {quran : Quran} {s : Site} {ev : History.Event} {history : History.State} (hs : Inv quran s)
    (hhears : s.hears ev = true) (h : History.step quran s.history ev = some history) :
    Inv quran { s with history, wasEnrolled := s.note ev } := by
  cases ev with
  | request i call =>
    obtain ⟨hidle, hbegins⟩ := Bool.and_eq_true_iff.1 hhears
    unfold History.step at h
    dsimp only at h
    split at h
    · rename_i hstarts
      cases h
      have honly : ∀ j c, (s.history.calls.put i (some call)).get j = some c → j = i ∧ c = call := by
        intro j c hc
        rcases Pool.get_put_cases hc with ⟨hj, hnew⟩ | ⟨-, hold⟩
        · exact ⟨hj, (Option.some.inj hnew).symm⟩
        · rw [no_calls hidle j] at hold
          cases hold
      refine ⟨hs.keyed, fun k row hrow => (hs.rows k row hrow).mono (fun _ hr _ => hr) rfl,
        fun j l c d hc hd => (honly j c hc).1.trans (honly l d hd).1.symm, fun j c hc => ?_, hs.users, hs.recitations⟩
      obtain ⟨-, rfl⟩ := honly j c hc
      cases c with
      | listing entry => exact List.contains_iff_mem.1 hbegins
      | looking user courseId dto => trivial
      | finding user courseId id dto => trivial
      | findingToRemove user courseId id sessionId => trivial
      | _ => cases hstarts
    · cases h
  | resume i reply =>
    obtain ⟨call, hcall, rfl⟩ := Option.map_eq_some_iff.1 h
    refine resume_inv hs hcall ?_
    have hhears : (s.history.calls.get i).all (s.answers reply) = true := hhears
    rw [hcall] at hhears
    exact hhears
  | tick ms =>
    cases h
    exact ⟨hs.keyed, fun k row hrow => (hs.rows k row hrow).mono (fun _ hr _ => hr) rfl, hs.alone, hs.calls, hs.users,
      hs.recitations⟩

theorem step_inv {quran : Quran} {s s' : Site} {ev : Event} (hs : Inv quran s) (h : step quran s ev = some s') :
    Inv quran s' := by
  have hkeep : ∀ {t : Site}, t.history.rows = s.history.rows → t.wasEnrolled = s.wasEnrolled →
      (∀ r ∈ s.recitations, r ∈ t.recitations) →
      ∀ k row, t.history.rows.get k = some row → row.id = k ∧ WellFormed quran t row :=
    fun hrows hwas hrec k row hrow => ⟨hs.keyed k row (hrows ▸ hrow),
      (hs.rows k row (hrows ▸ hrow)).mono (fun r hr _ => hrec r hr) (congrFun hwas _)⟩
  cases ev with
  | call ev =>
    unfold step at h
    dsimp only at h
    split at h
    · rename_i hhears
      obtain ⟨history, hhistory, rfl⟩ := Option.map_eq_some_iff.1 h
      exact call_inv hs hhears hhistory
    · cases h
  | register user =>
    unfold step at h
    dsimp only at h
    split at h
    · rename_i hidle
      split at h
      · cases h
      · rename_i huser
        cases h
        refine Inv.of_idle hidle rfl (hkeep rfl rfl fun _ hr => hr) (fun hmem => ?_) hs.recitations
        rcases List.mem_cons.1 hmem with heq | hmem
        · exact huser heq.symm
        · exact hs.users hmem
    · cases h
  | enroll courseId studentId =>
    unfold step at h
    dsimp only at h
    split at h
    · rename_i hidle
      cases h
      exact Inv.of_idle hidle rfl (hkeep rfl rfl fun _ hr => hr) hs.users hs.recitations
    · cases h
  | unenroll courseId studentId =>
    unfold step at h
    dsimp only at h
    split at h
    · rename_i hidle
      cases h
      exact Inv.of_idle hidle rfl (hkeep rfl rfl fun _ hr => hr) hs.users hs.recitations
    · cases h
  | recite r =>
    unfold step at h
    dsimp only at h
    split at h
    · rename_i hidle
      split at h
      · cases h
      · rename_i hnew
        cases h
        refine Inv.of_idle hidle rfl (hkeep rfl rfl fun _ hr => List.mem_cons_of_mem _ hr) hs.users fun q hq => ?_
        rcases List.mem_cons.1 hq with rfl | hq
        · exact fun hid => hnew (.inl hid)
        · exact hs.recitations q hq
    · cases h
  | erase id =>
    unfold step at h
    dsimp only at h
    split at h
    · rename_i hidle
      cases h
      refine Inv.of_idle hidle rfl (fun k row hrow => ?_) hs.users fun r hr => hs.recitations r (List.mem_filter.1 hr).1
      obtain ⟨old, hold, rfl⟩ := Option.map_eq_some_iff.1 ((Table.get_map ..).symm.trans hrow)
      exact ⟨hs.keyed k old hold, unlink_wellFormed (hs.rows k old hold) rfl rfl⟩
    · cases h

/-! ## Every stored mark -/

/-- Whatever is sent, and in whatever order, every mark that is stored is well formed. -/
theorem marks_wellFormed {quran : Quran} {s₀ s : Site} {es : List Event} (hinit : Initial s₀)
    (hrun : run (step quran) s₀ es = some s) :
    ∀ id row, s.history.rows.get id = some row → WellFormed quran s row :=
  (run_keeps (fun _ _ _ => step_inv) (initial_inv hinit) hrun).rows

namespace Example

/-- Each ayah is of two words, of three letters and of one. -/
def twoWords : Quran := fun _ _ => some [3, 1]

/-- A correction with its parts the wrong way round, and one of them twice. -/
def correction : CreateDto where
  id := "mark-of-bilal"
  mode := .studentCorrection
  sectionId := none
  sessionId := some "monday"
  studentId := some "bilal"
  hifzEntryId := none
  parts := [⟨2, 1, some 1, some 0⟩, ⟨1, 1, some 0, none⟩, ⟨2, 1, some 1, some 0⟩]
  kept := some true
  rule := some "custom"
  customLabel := some " <b>stop</b> "
  style := none
  color := none
  note := none
  outcome := some .tajweedIssue

def recitation : Recitation := ⟨"entry", "tajweed-1", "bilal"⟩

def entry : HifzEntry := ⟨"entry", "tajweed-1", "bilal", some "monday", "zayd"⟩

/-- What the tables say of bilal, who is enrolled and has no recitation named. -/
def told : Reply := ⟨some "acme", some none, true, true, false, true⟩

/-- A correction is saved, and then linked to the recitation it was heard in. -/
def sitting : List Event :=
  [.register "bilal", .enroll "tajweed-1" "bilal", .recite recitation,
    .call (.request 0 (.looking "zayd" "tajweed-1" correction))] ++
  List.replicate 3 (.call (.resume 0 told)) ++
  .call (.request 0 (.listing entry)) :: List.replicate 2 (.call (.resume 0 told))

def empty : Site := ⟨History.Example.unused, [], [], [], fun _ => false⟩

theorem empty_initial : Initial empty := ⟨rfl, fun _ => rfl, List.not_mem_nil, fun _ h => absurd h List.not_mem_nil⟩

end Example

open Example in
theorem correction_wellFormed : ∃ s row, run (step twoWords) empty sitting = some s ∧
    s.history.rows.get "mark-of-bilal" = some row ∧
    row.parts = [⟨1, 1, some 0, none⟩, ⟨2, 1, some 1, some 0⟩] ∧ row.hifzEntryId = some "entry" ∧
    WellFormed twoWords s row := by
  have hrun : ((run (step twoWords) empty sitting).bind fun s => s.history.rows.get "mark-of-bilal").map
      (fun row => (row.parts, row.hifzEntryId)) =
        some ([⟨1, 1, some 0, none⟩, ⟨2, 1, some 1, some 0⟩], some "entry") := by decide
  obtain ⟨row, hrow, hseen⟩ := Option.map_eq_some_iff.1 hrun
  obtain ⟨s, hs, hrow⟩ := Option.bind_eq_some_iff.1 hrow
  simp only [Prod.mk.injEq] at hseen
  exact ⟨s, row, hs, hrow, hseen.1, hseen.2, marks_wellFormed empty_initial hs _ row hrow⟩

end Livetich.Tajweed.Marks
