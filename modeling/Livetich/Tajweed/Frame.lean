/-
What an edit of a Tajweed mark leaves alone. The label and the note that an edit does not name are read from the
row, cleaned and checked again, and written back: they stay what they are as long as cleaning a clean text
changes nothing, which is so but for white space that a cut has left at the end.
-/
import Livetich.Tajweed.Marks

namespace Livetich.Tajweed.Frame

open TransSys Livetich.Lib History
open Livetich.Code (jsLength)

/-! ## Cleaning -/

/-- A bracket that opens is not closed after it. -/
def Untagged (cs : List Char) : Prop := ¬['<', '>'].Sublist cs

theorem dropTags_sublist : ∀ (fuel : Nat) (cs : List Char), (dropTags fuel cs).Sublist cs
  | 0, cs => List.Sublist.refl cs
  | _ + 1, [] => List.Sublist.refl []
  | fuel + 1, c :: cs => by
    unfold dropTags
    split
    · cases hrest : cs.dropWhile (· ≠ '>') with
      | nil => exact (dropTags_sublist fuel cs).cons_cons c
      | cons close rest =>
        have hsuffix : (close :: rest) <:+ cs := hrest ▸ List.dropWhile_suffix _
        exact ((dropTags_sublist fuel rest).trans ((List.sublist_cons_self close rest).trans hsuffix.sublist)).cons c
    · exact (dropTags_sublist fuel cs).cons_cons c

theorem Untagged.sublist {cs l : List Char} (h : Untagged cs) (hl : l.Sublist cs) : Untagged l :=
  fun hsub => h (hsub.trans hl)

theorem untagged_cons_of_ne {c : Char} {cs : List Char} (hc : c ≠ '<') (h : Untagged cs) : Untagged (c :: cs) := by
  intro hsub
  cases hsub with
  | cons _ hsub => exact h hsub
  | cons_cons _ _ => exact hc rfl

theorem untagged_cons_of_not_mem {c : Char} {cs : List Char} (h : '>' ∉ cs) : Untagged (c :: cs) := by
  intro hsub
  cases hsub with
  | cons _ hsub => exact h (hsub.subset (by simp))
  | cons_cons _ hsub => exact h (List.singleton_sublist.1 hsub)

/-- Where no bracket closes, there is nothing to drop. -/
theorem dropWhile_open {cs : List Char} : cs.dropWhile (· ≠ '>') = [] ↔ '>' ∉ cs := by
  rw [List.dropWhile_eq_nil_iff]
  constructor
  · intro h hmem
    simpa using h '>' hmem
  · rintro h c hc
    rw [decide_eq_true_iff]
    rintro rfl
    exact h hc

theorem untagged_dropTags : ∀ (fuel : Nat) (cs : List Char), cs.length ≤ fuel → Untagged (dropTags fuel cs)
  | fuel, [], _ => by
    have hnil : dropTags fuel [] = [] := List.sublist_nil.1 (dropTags_sublist fuel [])
    rw [hnil]
    rintro ⟨⟩
  | fuel + 1, c :: cs, h => by
    have hlength : cs.length ≤ fuel := Nat.le_of_succ_le_succ h
    unfold dropTags
    split
    · cases hrest : cs.dropWhile (· ≠ '>') with
      | nil =>
        refine untagged_cons_of_not_mem fun hmem => ?_
        exact dropWhile_open.1 hrest ((dropTags_sublist fuel cs).subset hmem)
      | cons close rest =>
        have hsuffix : (close :: rest) <:+ cs := hrest ▸ List.dropWhile_suffix _
        have hshort : rest.length + 1 ≤ cs.length := hsuffix.length_le
        exact untagged_dropTags fuel rest (by omega)
    · rename_i hne
      exact untagged_cons_of_ne hne (untagged_dropTags fuel cs hlength)

/-- Text without tags is left as it is. -/
theorem dropTags_of_untagged : ∀ (fuel : Nat) {cs : List Char}, Untagged cs → dropTags fuel cs = cs
  | 0, _, _ => rfl
  | _ + 1, [], _ => rfl
  | fuel + 1, c :: cs, h => by
    have htail : dropTags fuel cs = cs := dropTags_of_untagged fuel (h.sublist (List.sublist_cons_self c cs))
    unfold dropTags
    split
    · rename_i hopen
      subst hopen
      have hclosed : '>' ∉ cs := fun hmem => h ((List.singleton_sublist.2 hmem).cons_cons '<')
      rw [dropWhile_open.2 hclosed]
      dsimp only
      rw [htail]
    · rw [htail]

/-- Clean text: without tags and control characters, not too long, and beginning with no space. -/
structure Clean (max : Nat) (cs : List Char) : Prop where
  untagged : Untagged cs
  plain : ∀ c ∈ cs, isControl c = false
  short : jsLength cs ≤ max
  head : ∀ c, cs.head? = some c → Js.isSpace c = false

theorem untagged_replacement {cs : List Char} (h : Untagged cs) : Untagged (cs ++ [Js.replacement]) := by
  intro hsub
  obtain ⟨l, r, heq, hl, hr⟩ := List.sublist_append_iff.1 hsub
  -- The replacement is neither bracket.
  have hnil : r = [] := by
    rcases List.sublist_singleton.1 hr with rfl | rfl
    · rfl
    · exfalso
      have hlast := congrArg List.getLast? heq
      rw [List.getLast?_append] at hlast
      have hsame : some '>' = some Js.replacement := hlast
      exact absurd hsame (by decide)
  rw [hnil, List.append_nil] at heq
  exact h (heq ▸ hl)

theorem cleanText_clean {value : Option String} {max : Nat} {text : String} (h : cleanText value max = some text) :
    Clean max text.toList := by
  obtain ⟨hmap, -⟩ := Option.filter_eq_some_iff.1 h
  obtain ⟨raw, -, rfl⟩ := Option.map_eq_some_iff.1 hmap
  rw [String.toList_ofList]
  have hplain : ∀ c ∈ Js.trim ((dropTags raw.length raw.toList).filter fun c => !isControl c), isControl c = false := by
    intro c hc
    have hmem := (Js.trim_sublist _).subset hc
    simpa using (List.mem_filter.1 hmem).2
  have huntagged : Untagged (Js.trim ((dropTags raw.length raw.toList).filter fun c => !isControl c)) := by
    have hdropped : Untagged (dropTags raw.length raw.toList) := untagged_dropTags _ _ (by rw [String.length_toList])
    exact hdropped.sublist ((Js.trim_sublist _).trans List.filter_sublist)
  obtain ⟨l, hl, hslice⟩ :=
    Js.slice_eq (Js.trim ((dropTags raw.length raw.toList).filter fun c => !isControl c)) max
  refine ⟨?_, fun c hc => ?_, Js.jsLength_slice _ _, Js.head_slice fun c => Js.head_trim⟩
  · rcases hslice with hslice | hslice
    · rw [hslice]
      exact huntagged.sublist hl.sublist
    · rw [hslice]
      exact untagged_replacement (huntagged.sublist hl.sublist)
  · rcases hslice with hslice | hslice
    · rw [hslice] at hc
      exact hplain c (hl.subset hc)
    · rw [hslice] at hc
      rcases List.mem_append.1 hc with hc | hc
      · exact hplain c (hl.subset hc)
      · rw [List.mem_singleton.1 hc]
        rfl

/-- What cleaning does to clean text: it trims its end. -/
theorem cleanText_of_clean {max : Nat} {text : String} (h : Clean max text.toList) (hne : text ≠ "") :
    cleanText (some text) max = some (String.ofList (Js.trim text.toList)) := by
  have hnil : text.toList ≠ [] := fun hnil => hne (String.toList_eq_nil_iff.1 hnil)
  have hfilter : (text.toList.filter fun c => !isControl c) = text.toList :=
    List.filter_eq_self.2 fun c hc => by rw [h.plain c hc]; rfl
  have hshort : jsLength (Js.trim text.toList) ≤ max := (Js.jsLength_sublist (Js.trim_sublist _)).trans h.short
  unfold cleanText
  rw [Option.map_some, dropTags_of_untagged _ h.untagged, hfilter, Js.slice_of_le hshort, Option.filter_some, if_pos]
  rw [decide_eq_true_iff]
  intro hempty
  have hlist := congrArg String.toList hempty
  rw [String.toList_ofList] at hlist
  exact Js.trim_ne_nil hnil h.head hlist

/-- A stored text ends in white space. -/
def endsInSpace (text : String) : Bool := text.toList.getLast?.any Js.isSpace

/-- A text that has been cleaned stays what it is when it is cleaned again, unless it ends in white space. -/
theorem cleanText_again {value : Option String} {max : Nat} {text : String} (h : cleanText value max = some text) :
    cleanText (some text) max = some text ↔ endsInSpace text = false := by
  have hclean := cleanText_clean h
  rw [cleanText_of_clean hclean (Marks.cleanText_ne h), Option.some.injEq]
  unfold endsInSpace
  rw [← Js.trim_eq_self_iff hclean.head]
  constructor
  · intro heq
    have hlist := congrArg String.toList heq
    rwa [String.toList_ofList] at hlist
  · intro heq
    rw [heq, String.ofList_toList]

/-! ## What is stored -/

/-- The label and the note of the content have been cleaned. -/
structure Cleaned (c : Content) : Prop where
  label : ∃ value, cleanText value 60 = c.customLabel
  note : ∃ value, cleanText value 1000 = c.note

def CallCleaned : Call → Prop
  | .inserting _ _ _ filed => Cleaned filed.content
  | .editing _ _ _ _ edit => Cleaned edit.content
  | _ => True

structure Stored (s : History.State) : Prop where
  rows : ∀ k row, s.rows.get k = some row → Cleaned row.content
  calls : ∀ i call, s.calls.get i = some call → CallCleaned call

theorem labelled_eq {input c : Content}
    (h : (ensure (¬(input.rule = some "custom" ∧ cleanText input.customLabel 60 = none))
        (HttpError.badRequest "Give the custom note a label") >>= fun _ =>
      pure { input with customLabel := cleanText input.customLabel 60, note := cleanText input.note 1000 }) = .ok c) :
    c = { input with customLabel := cleanText input.customLabel 60, note := cleanText input.note 1000 } := by
  obtain ⟨u, -, h⟩ := bind_ok_iff.1 h
  cases h
  rfl

/-- What is stored is what was sent, with the label and the note cleaned. -/
theorem contentOf_eq {input c : Content} {mode : TajweedAnnotationMode} (h : contentOf input mode = .ok c) :
    c = { input with customLabel := cleanText input.customLabel 60, note := cleanText input.note 1000 } := by
  obtain ⟨u, -, h⟩ := bind_ok_iff.1 h
  cases mode with
  | lesson =>
    obtain ⟨u, -, h⟩ := bind_ok_iff.1 h
    obtain ⟨u, -, h⟩ := bind_ok_iff.1 h
    exact labelled_eq h
  | studentCorrection =>
    obtain ⟨u, -, h⟩ := bind_ok_iff.1 h
    obtain ⟨u, -, h⟩ := bind_ok_iff.1 h
    exact labelled_eq h

theorem contentOf_cleaned {input c : Content} {mode : TajweedAnnotationMode} (h : contentOf input mode = .ok c) :
    Cleaned c := by
  rw [contentOf_eq h]
  exact ⟨⟨input.customLabel, rfl⟩, ⟨input.note, rfl⟩⟩

theorem checkCreate_cleaned {quran : Quran} {reply : Reply} {dto : CreateDto} {filed : Filed}
    (h : checkCreate quran reply dto = .ok filed) : Cleaned filed.content := by
  obtain ⟨organizationId, -, h⟩ := bind_ok_iff.1 h
  obtain ⟨parts, -, h⟩ := bind_ok_iff.1 h
  obtain ⟨content, hcontent, h⟩ := bind_ok_iff.1 h
  have hcleaned := contentOf_cleaned hcontent
  cases hmode : dto.mode with
  | lesson =>
    rw [hmode] at h
    obtain ⟨u, -, h⟩ := bind_ok_iff.1 h
    obtain ⟨sectionId, -, h⟩ := bind_ok_iff.1 h
    obtain ⟨u, -, h⟩ := bind_ok_iff.1 h
    cases h
    exact hcleaned
  | studentCorrection =>
    rw [hmode] at h
    obtain ⟨u, -, h⟩ := bind_ok_iff.1 h
    obtain ⟨u, -, h⟩ := bind_ok_iff.1 h
    obtain ⟨sectionId, -, h⟩ := bind_ok_iff.1 h
    obtain ⟨u, -, h⟩ := bind_ok_iff.1 h
    cases h
    exact hcleaned

/-- What `update` is about to write. -/
theorem editOf_eq {quran : Quran} {row : AnnotationRow} {dto : UpdateDto} {edit : Edit}
    (h : editOf quran row dto = .ok edit) :
    contentOf (dto.content row) row.mode = .ok edit.content ∧ (dto.parts = none → edit.parts = none) ∧
      (row.mode = .lesson → edit.kept = dto.kept.getD row.kept) ∧
      (row.mode = .studentCorrection → edit.kept = false) := by
  unfold editOf at h
  cases hdto : dto.parts with
  | none =>
    rw [hdto] at h
    obtain ⟨parts, hparts, h⟩ := bind_ok_iff.1 h
    cases hparts
    obtain ⟨content, hcontent, h⟩ := bind_ok_iff.1 h
    cases h
    refine ⟨hcontent, fun _ => rfl, fun hm => ?_, fun hm => ?_⟩
    · simp only [hm]
    · simp only [hm]
  | some sent =>
    rw [hdto] at h
    obtain ⟨parts, -, h⟩ := bind_ok_iff.1 h
    obtain ⟨content, hcontent, h⟩ := bind_ok_iff.1 h
    cases h
    refine ⟨hcontent, fun hnone => (by cases hnone), fun hm => ?_, fun hm => ?_⟩
    · simp only [hm]
    · simp only [hm]

theorem prepare_cleaned {quran : Quran} {user : UserId} {courseId : CourseId} {row : AnnotationRow} {dto : UpdateDto}
    {call : Call} (h : prepare quran user courseId row dto = .goes call) : CallCleaned call := by
  unfold prepare at h
  cases hedit : editOf quran row dto with
  | error e =>
    rw [hedit] at h
    cases h
  | ok edit =>
    rw [hedit] at h
    cases h
    exact contentOf_cleaned (editOf_eq hedit).1

theorem linkNext_cleaned {entry : HifzEntry} {linked : Nat} {rest : List (AnnotationId × Nat)} {call : Call}
    (h : linkNext entry linked rest = .goes call) : CallCleaned call := by
  cases rest with
  | nil => cases h
  | cons k rest =>
    cases h
    trivial

/-- How a call goes on: what it is about to write has been cleaned. -/
theorem act_cleaned {quran : Quran} {s : History.State} {reply : Reply} {call next : Call}
    (h : (call.act quran s reply).2 = .goes next) : CallCleaned next := by
  cases call with
  | checking user courseId dto =>
    simp only [Call.act] at h
    cases hcheck : checkCreate quran reply dto with
    | error e =>
      rw [hcheck] at h
      cases h
    | ok filed =>
      rw [hcheck] at h
      cases h
      exact checkCreate_cleaned hcheck
  | finding user courseId id dto =>
    simp only [Call.act] at h
    split at h
    · cases h
    · split at h
      · cases h
      · split at h
        · exact prepare_cleaned h
        · cases h
          trivial
  | notifying user courseId row dto =>
    simp only [Call.act] at h
    split at h
    · exact prepare_cleaned h
    · cases h
  | listing entry =>
    simp only [Call.act] at h
    split at h
    · cases h
    · exact linkNext_cleaned h
  | linking entry id version rest linked =>
    simp only [Call.act] at h
    split at h
    · split at h
      · split at h <;> exact linkNext_cleaned h
      · exact linkNext_cleaned h
    · cases h
  | looking user courseId dto =>
    simp only [Call.act] at h
    split at h
    · cases h
    · cases h
      trivial
  | inserting user courseId dto filed =>
    simp only [Call.act] at h
    split at h
    · split at h
      · cases h
        trivial
      · cases h
    · cases h
  | relooking user courseId dto =>
    simp only [Call.act] at h
    split at h <;> cases h
  | editing user courseId id version edit =>
    simp only [Call.act] at h
    split at h
    · split at h
      · split at h <;> cases h
      · cases h
    · cases h
  | findingToRemove user courseId id sessionId =>
    simp only [Call.act] at h
    split at h
    · cases h
    · split at h
      · cases h
        trivial
      · cases h
        trivial
  | notifyingRemoval user row =>
    simp only [Call.act] at h
    split at h
    · cases h
      trivial
    · cases h
  | deleting user row =>
    simp only [Call.act] at h
    split at h
    · split at h <;> cases h
    · cases h

theorem write_cleaned {quran : Quran} {s : History.State} (hs : Stored s) {i : Nat} {reply : Reply} {call : Call}
    (hcall : s.calls.get i = some call) :
    ∀ k row, (s.write (call.act quran s reply).1).rows.get k = some row → Cleaned row.content := by
  have hok := hs.calls i call hcall
  intro k r hr
  cases hw : (call.act quran s reply).1 with
  | none =>
    rw [hw] at hr
    exact hs.rows k r hr
  | some w =>
    rw [hw] at hr
    rcases act_write hw with ⟨user, courseId, dto, filed, rfl, -, hnone, rfl⟩ |
      ⟨id, row, next, user, hrow, -, -, rfl, hwho⟩ | ⟨user, read, current, rfl, -, -, rfl⟩
    · rcases Table.get_insert_cases hr with hold | ⟨-, rfl⟩
      · exact hs.rows k r hold
      · exact hok
    · rcases Marks.get_modify_const hr with ⟨-, rfl⟩ | hold
      · rcases hwho with ⟨courseId, edit, rfl, rfl, -⟩ | ⟨entry, rest, linked, rfl, rfl, -⟩
        · exact hok
        · exact hs.rows id row hrow
      · exact hs.rows k r hold
    · exact hs.rows k r (Table.get_filter.1 hr).1

theorem history_stored {quran : Quran} {s s' : History.State} {ev : History.Event} (hs : Stored s)
    (h : History.step quran s ev = some s') : Stored s' := by
  cases ev with
  | request i call =>
    unfold History.step at h
    dsimp only at h
    split at h
    · rename_i hstarts
      cases h
      refine ⟨hs.rows, fun j c hc => ?_⟩
      rcases Pool.get_put_cases hc with ⟨-, hnew⟩ | ⟨-, hold⟩
      · cases hnew
        cases call with
        | inserting user courseId dto filed => cases hstarts
        | editing user courseId id version edit => cases hstarts
        | _ => trivial
      · exact hs.calls j c hold
    · cases h
  | resume i reply =>
    obtain ⟨call, hcall, rfl⟩ := Option.map_eq_some_iff.1 h
    refine ⟨fun k row hrow => ?_, fun j c hc => ?_⟩
    · rw [goOn_rows] at hrow
      exact write_cleaned hs hcall k row hrow
    · cases hnext : (call.act quran s reply).2 with
      | goes next =>
        rw [hnext] at hc
        rcases Pool.get_put_cases hc with ⟨-, hnew⟩ | ⟨-, hold⟩
        · cases hnew
          exact act_cleaned hnext
        · rw [Marks.write_calls] at hold
          exact hs.calls j c hold
      | ends answer =>
        rw [hnext] at hc
        rcases Pool.get_put_cases hc with ⟨-, hnone⟩ | ⟨-, hold⟩
        · cases hnone
        · rw [Marks.write_calls] at hold
          exact hs.calls j c hold
  | tick ms =>
    cases h
    exact ⟨hs.rows, hs.calls⟩

theorem step_stored {quran : Quran} {s s' : Marks.Site} {ev : Marks.Event} (hs : Stored s.history)
    (h : Marks.step quran s ev = some s') : Stored s'.history := by
  cases ev with
  | call ev =>
    unfold Marks.step at h
    dsimp only at h
    split at h
    · obtain ⟨history, hhistory, rfl⟩ := Option.map_eq_some_iff.1 h
      exact history_stored hs hhistory
    · cases h
  | erase id =>
    unfold Marks.step at h
    dsimp only at h
    split at h
    · cases h
      refine ⟨fun k row hrow => ?_, hs.calls⟩
      obtain ⟨old, hold, rfl⟩ := Option.map_eq_some_iff.1 ((Table.get_map ..).symm.trans hrow)
      exact hs.rows k old hold
    · cases h
  | register user | recite r =>
    unfold Marks.step at h
    dsimp only at h
    split at h
    · split at h
      · cases h
      · cases h
        exact hs
    · cases h
  | enroll courseId studentId | unenroll courseId studentId =>
    unfold Marks.step at h
    dsimp only at h
    split at h
    · cases h
      exact hs
    · cases h

theorem initial_stored {s : Marks.Site} (h : Marks.Initial s) : Stored s.history := by
  refine ⟨fun k row hrow => ?_, fun i c hc => ?_⟩
  · rw [h.rows] at hrow
    cases hrow
  · rw [h.calls] at hc
    cases hc

/-! ## One update -/

/-- The request and what comes back to it, with no other call in between. -/
def update (i : Nat) (user : UserId) (courseId : CourseId) (id : AnnotationId) (dto : UpdateDto)
    (replies : List Reply) : List History.Event :=
  .request i (.finding user courseId id dto) :: replies.map (.resume i)

/-- An edit changes what it names, and the version. -/
structure Framed (dto : UpdateDto) (row next : AnnotationRow) : Prop where
  rule : dto.rule = .absent → next.content.rule = row.content.rule
  customLabel : dto.customLabel = .absent → next.content.customLabel = row.content.customLabel
  style : dto.style = none → next.content.style = row.content.style
  color : dto.color = .absent → next.content.color = row.content.color
  note : dto.note = .absent → next.content.note = row.content.note
  outcome : dto.outcome = .absent → next.content.outcome = row.content.outcome
  kept : dto.kept = none → next.kept = row.kept
  parts : dto.parts = none →
    next.parts = row.parts ∧ next.surahNumber = row.surahNumber ∧ next.ayahNumber = row.ayahNumber
  version : next.version = row.version + 1
  filed : next.id = row.id ∧ next.mode = row.mode ∧ next.courseId = row.courseId ∧ next.sessionId = row.sessionId ∧
    next.sectionId = row.sectionId
  who : next.studentId = row.studentId ∧ next.hifzEntryId = row.hifzEntryId ∧ next.createdById = row.createdById

/-- A text that the edit does not name is stored without white space at its end. -/
def keepsText (field : Courses.Field String) (stored : Option String) : Bool :=
  field.isSet || stored.all fun text => !endsInSpace text

def tidy (dto : UpdateDto) (row : AnnotationRow) : Bool :=
  keepsText dto.customLabel row.content.customLabel && keepsText dto.note row.content.note

/-- A stored text that an edit does not name is cleaned again. -/
theorem keepsText_iff {field : Courses.Field String} {stored : Option String} {max : Nat}
    (hstored : ∃ value, cleanText value max = stored) : keepsText field stored = true ↔
      (field = .absent → cleanText (field.write stored) max = stored) := by
  obtain ⟨value, hvalue⟩ := hstored
  unfold keepsText
  cases field with
  | null => simp [Courses.Field.isSet]
  | value text => simp [Courses.Field.isSet]
  | absent =>
    rw [show Courses.Field.absent.isSet = false from rfl, Bool.false_or]
    show _ ↔ (_ → cleanText stored max = stored)
    cases stored with
    | none => exact ⟨fun _ _ => rfl, fun _ => rfl⟩
    | some text =>
      rw [cleanText_again hvalue, Option.all_some, Bool.not_eq_true']
      exact ⟨fun h _ => h, fun h => h rfl⟩

theorem framed_iff {quran : Quran} {row : AnnotationRow} {dto : UpdateDto} {edit : Edit} {now : Nat} {user : UserId}
    (hcleaned : Cleaned row.content) (hkept : row.mode = .studentCorrection → row.kept = false)
    (hedit : editOf quran row dto = .ok edit) :
    Framed dto row (editRow now user edit row) ↔ tidy dto row = true := by
  obtain ⟨hcontent, hparts, hlesson, hcorrection⟩ := editOf_eq hedit
  have hwritten := contentOf_eq hcontent
  have hlabel : (editRow now user edit row).content.customLabel =
      cleanText (dto.customLabel.write row.content.customLabel) 60 := congrArg Content.customLabel hwritten
  have hnote : (editRow now user edit row).content.note = cleanText (dto.note.write row.content.note) 1000 :=
    congrArg Content.note hwritten
  unfold tidy
  rw [Bool.and_eq_true, keepsText_iff hcleaned.label, keepsText_iff hcleaned.note, ← hlabel, ← hnote]
  refine ⟨fun h => ⟨h.customLabel, h.note⟩, fun ⟨hlabel, hnote⟩ => ?_⟩
  refine ⟨fun h => ?_, hlabel, fun h => ?_, fun h => ?_, hnote, fun h => ?_, fun h => ?_, fun h => ?_, rfl,
    ⟨rfl, rfl, rfl, rfl, rfl⟩, rfl, rfl, rfl⟩
  · refine (congrArg Content.rule hwritten).trans ?_
    show dto.rule.write row.content.rule = _
    rw [h]
    rfl
  · refine (congrArg Content.style hwritten).trans ?_
    show dto.style.getD row.content.style = _
    rw [h]
    rfl
  · refine (congrArg Content.color hwritten).trans ?_
    show dto.color.write row.content.color = _
    rw [h]
    rfl
  · refine (congrArg Content.outcome hwritten).trans ?_
    show dto.outcome.write row.content.outcome = _
    rw [h]
    rfl
  · show edit.kept = row.kept
    cases hmode : row.mode with
    | lesson =>
      rw [hlesson hmode, h]
      rfl
    | studentCorrection => rw [hcorrection hmode, hkept hmode]
  · show edit.parts.getD row.parts = row.parts ∧ (edit.parts.map _).getD row.surahNumber = row.surahNumber ∧
      (edit.parts.map _).getD row.ayahNumber = row.ayahNumber
    rw [hparts h]
    exact ⟨rfl, rfl, rfl⟩

/-- What an update may come to: it is refused and nothing is written, or the row is edited. -/
def Updated (quran : Quran) (s t : History.State) (user : UserId) (id : AnnotationId) (dto : UpdateDto)
    (answer : Result Answer) : Prop :=
  (∃ e, answer = .error e ∧ t.rows = s.rows ∧ t.records = s.records) ∨
  ∃ row edit, s.rows.get id = some row ∧ dto.version = row.version ∧ editOf quran row dto = .ok edit ∧
    t.rows = (s.rows.modify id fun _ => editRow s.now user edit row) ∧
    answer = .ok (.saved (toPublic (editRow s.now user edit row)))

/-- A call that runs on its own to its end: its next database call comes back, and it ends or goes on. -/
theorem resume_cases {quran : Quran} {s t : History.State} {i : Nat} {call : Call} {replies : List Reply}
    (hcall : s.calls.get i = some call) (hrun : run (History.step quran) s (replies.map (.resume i)) = some t)
    (hover : t.calls.get i = none) : ∃ reply rest, replies = reply :: rest ∧
      ((∃ answer, (call.act quran s reply).2 = .ends answer ∧
          t = (s.write (call.act quran s reply).1).goOn i (.ends answer)) ∨
        ∃ next, (call.act quran s reply).2 = .goes next ∧
          run (History.step quran) ((s.write (call.act quran s reply).1).goOn i (.goes next))
            (rest.map (.resume i)) = some t) := by
  cases replies with
  | nil =>
    cases hrun
    rw [hcall] at hover
    cases hover
  | cons reply rest =>
    refine ⟨reply, rest, rfl, ?_⟩
    obtain ⟨s', hs', hrun⟩ := run_cons.1 hrun
    have hstep : s' = (s.write (call.act quran s reply).1).goOn i (call.act quran s reply).2 := by
      simp only [History.step, hcall, Option.map_some, Option.some.injEq] at hs'
      exact hs'.symm
    cases hnext : (call.act quran s reply).2 with
    | goes next =>
      rw [hnext] at hstep
      exact .inr ⟨next, rfl, hstep ▸ hrun⟩
    | ends answer =>
      rw [hnext] at hstep
      have hgone : s'.calls.get i = none := by
        rw [hstep]
        exact Pool.get_put_self ..
      -- The call is over, so nothing more comes back to it.
      cases rest with
      | nil =>
        cases hrun
        exact .inl ⟨answer, rfl, hstep⟩
      | cons reply' rest =>
        obtain ⟨s'', hs'', -⟩ := run_cons.1 hrun
        simp only [History.step, hgone, Option.map_none] at hs''
        cases hs''

/-- An edit that waits for its transaction is refused, or written to the row as it was found. -/
theorem editing_updated {quran : Quran} {s t : History.State} {i : Nat} {user : UserId} {courseId : CourseId}
    {id : AnnotationId} {version : Nat} {edit : Edit} {row : AnnotationRow} {replies : List Reply}
    (hcall : s.calls.get i = some (.editing user courseId id version edit)) (hrow : s.rows.get id = some row)
    (hrun : run (History.step quran) s (replies.map (.resume i)) = some t) (hover : t.calls.get i = none) :
    ∃ answer, t.answers = (i, answer) :: s.answers ∧
      ((∃ e, answer = .error e ∧ t.rows = s.rows ∧ t.records = s.records) ∨
        (t.rows = (s.rows.modify id fun _ => editRow s.now user edit row) ∧
          answer = .ok (.saved (toPublic (editRow s.now user edit row))))) := by
  obtain ⟨reply, rest, rfl, h⟩ := resume_cases hcall hrun hover
  by_cases haccepted : reply.accepted = true
  · by_cases hmatch : row.courseId = courseId ∧ row.version = version
    · have hact : (Call.editing user courseId id version edit).act quran s reply =
          (some (.edit id version (editRow s.now user edit row) user),
            .ends (.ok (.saved (toPublic (editRow s.now user edit row))))) := by
        simp only [Call.act]
        rw [if_pos haccepted, hrow]
        dsimp only
        rw [if_pos hmatch]
      rw [hact] at h
      rcases h with ⟨answer, hends, rfl⟩ | ⟨next, hgoes, -⟩
      · cases hends
        exact ⟨_, rfl, .inr ⟨rfl, rfl⟩⟩
      · cases hgoes
    · -- Another edit came between the look-up and the transaction.
      have hact : (Call.editing user courseId id version edit).act quran s reply =
          (none, .ends (.error (.conflict stale none))) := by
        simp only [Call.act]
        rw [if_pos haccepted, hrow]
        dsimp only
        rw [if_neg hmatch]
      rw [hact] at h
      rcases h with ⟨answer, hends, rfl⟩ | ⟨next, hgoes, -⟩
      · cases hends
        exact ⟨_, rfl, .inl ⟨_, rfl, rfl, rfl⟩⟩
      · cases hgoes
  · have hact : (Call.editing user courseId id version edit).act quran s reply =
        (none, .ends (.error serverError)) := by
      simp only [Call.act]
      rw [if_neg haccepted]
    rw [hact] at h
    rcases h with ⟨answer, hends, rfl⟩ | ⟨next, hgoes, -⟩
    · cases hends
      exact ⟨_, rfl, .inl ⟨_, rfl, rfl, rfl⟩⟩
    · cases hgoes

/-- An update that has found its row, of the version it is based on. -/
theorem prepare_updated {quran : Quran} {s t : History.State} {i : Nat} {user : UserId} {courseId : CourseId}
    {id : AnnotationId} {dto : UpdateDto} {row : AnnotationRow} {rest : List Reply} (hrow : s.rows.get id = some row)
    (hid : row.id = id) (hversion : dto.version = row.version)
    (h : (∃ answer, prepare quran user courseId row dto = .ends answer ∧ t = s.goOn i (.ends answer)) ∨
      ∃ next, prepare quran user courseId row dto = .goes next ∧
        run (History.step quran) (s.goOn i (.goes next)) (rest.map (.resume i)) = some t)
    (hover : t.calls.get i = none) :
    ∃ answer, t.answers = (i, answer) :: s.answers ∧ Updated quran s t user id dto answer := by
  unfold prepare at h
  cases hedit : editOf quran row dto with
  | error e =>
    rw [hedit] at h
    rcases h with ⟨answer, hends, rfl⟩ | ⟨next, hgoes, -⟩
    · cases hends
      exact ⟨_, rfl, .inl ⟨e, rfl, rfl, rfl⟩⟩
    · cases hgoes
  | ok edit =>
    rw [hedit] at h
    rcases h with ⟨answer, hends, -⟩ | ⟨next, hgoes, hrun⟩
    · cases hends
    · cases hgoes
      have hcall : (s.goOn i (.goes (.editing user courseId row.id dto.version edit))).calls.get i =
          some (.editing user courseId row.id dto.version edit) := Pool.get_put_self ..
      rw [hid] at hcall hrun
      obtain ⟨answer, hanswers, hrefused | ⟨hrows, hsaved⟩⟩ := editing_updated hcall hrow hrun hover
      · exact ⟨answer, hanswers, .inl hrefused⟩
      · exact ⟨answer, hanswers, .inr ⟨row, edit, hrow, hversion, hedit, hrows, hsaved⟩⟩

theorem update_updated {quran : Quran} {s t : History.State} (hkeyed : ∀ k row, s.rows.get k = some row → row.id = k)
    {i : Nat} {user : UserId} {courseId : CourseId} {id : AnnotationId} {dto : UpdateDto} {replies : List Reply}
    (hrun : run (History.step quran) s (update i user courseId id dto replies) = some t)
    (hover : t.calls.get i = none) :
    ∃ answer, t.answers = (i, answer) :: s.answers ∧ Updated quran s t user id dto answer := by
  obtain ⟨s', hs', hrun⟩ := run_cons.1 hrun
  simp only [History.step] at hs'
  split at hs'
  · obtain rfl := Option.some.inj hs'
    have hcall : (s.calls.put i (some (.finding user courseId id dto))).get i = some (.finding user courseId id dto) :=
      Pool.get_put_self ..
    obtain ⟨reply, rest, rfl, h⟩ := resume_cases hcall hrun hover
    simp only [Call.act] at h
    cases hfind : find { s with calls := s.calls.put i (some (.finding user courseId id dto)) } courseId id with
    | error e =>
      rw [hfind] at h
      rcases h with ⟨answer, hends, rfl⟩ | ⟨next, hgoes, -⟩
      · cases hends
        exact ⟨_, rfl, .inl ⟨e, rfl, rfl, rfl⟩⟩
      · cases hgoes
    | ok row =>
      have hrow : s.rows.get id = some row := Marks.find_ok hfind
      rw [hfind] at h
      dsimp only at h
      -- The version comes before the session, so a stale edit is refused whatever class it names.
      by_cases hversion : dto.version = row.version
      · rw [if_neg (not_not.2 hversion)] at h
        cases hsession : given dto.sessionId with
        | none =>
          rw [hsession] at h
          exact prepare_updated (s := { s with calls := s.calls.put i (some (.finding user courseId id dto)) })
            hrow (hkeyed id row hrow) hversion h hover
        | some sessionId =>
          rw [hsession] at h
          rcases h with ⟨answer, hends, -⟩ | ⟨next, hgoes, hrun⟩
          · cases hends
          · cases hgoes
            obtain ⟨reply', rest', rfl, h⟩ := resume_cases (Pool.get_put_self ..) hrun hover
            simp only [Call.act] at h
            by_cases hfound : reply'.session.isSome = true
            · rw [if_pos hfound] at h
              exact prepare_updated
                (s := { s with
                  calls := (s.calls.put i (some (.finding user courseId id dto))).put i
                    (some (.notifying user courseId row dto)) })
                hrow (hkeyed id row hrow) hversion h hover
            · rw [if_neg hfound] at h
              rcases h with ⟨answer, hends, rfl⟩ | ⟨next, hgoes, -⟩
              · cases hends
                exact ⟨_, rfl, .inl ⟨_, rfl, rfl, rfl⟩⟩
              · cases hgoes
      · rw [if_pos hversion] at h
        rcases h with ⟨answer, hends, rfl⟩ | ⟨next, hgoes, -⟩
        · cases hends
          exact ⟨_, rfl, .inl ⟨_, rfl, rfl, rfl⟩⟩
        · cases hgoes
  · cases hs'

theorem run_stored {quran : Quran} {s₀ s : Marks.Site} {es : List Marks.Event} (hinit : Marks.Initial s₀)
    (hrun : run (Marks.step quran) s₀ es = some s) : Stored s.history :=
  run_keeps (I := fun s : Marks.Site => Stored s.history) (fun _ _ _ => step_stored) (initial_stored hinit) hrun

/-- Whatever has been stored, an update is refused and changes nothing, or it changes what it names, exactly when
the label and the note that it does not name are stored without white space at their end. -/
theorem update_frames {quran : Quran} {s₀ s : Marks.Site} {es : List Marks.Event} (hinit : Marks.Initial s₀)
    (hrun : run (Marks.step quran) s₀ es = some s) {t : History.State} {i : Nat} {user : UserId} {courseId : CourseId}
    {id : AnnotationId} {dto : UpdateDto} {replies : List Reply}
    (hupdate : run (History.step quran) s.history (update i user courseId id dto replies) = some t)
    (hover : t.calls.get i = none) :
    ∃ answer, t.answers = (i, answer) :: s.history.answers ∧
      ((∃ e, answer = .error e ∧ t.rows = s.history.rows ∧ t.records = s.history.records) ∨
        ∃ row next, answer = .ok (.saved (toPublic next)) ∧ s.history.rows.get id = some row ∧
          dto.version = row.version ∧ t.rows = (s.history.rows.modify id fun _ => next) ∧
          (Framed dto row next ↔ tidy dto row = true)) := by
  have hinv := run_keeps (fun _ _ _ => Marks.step_inv) (Marks.initial_inv hinit) hrun
  have hstored := run_stored hinit hrun
  obtain ⟨answer, hanswers, hrefused | ⟨row, edit, hrow, hversion, hedit, hrows, hsaved⟩⟩ :=
    update_updated hinv.keyed hupdate hover
  · exact ⟨answer, hanswers, .inl hrefused⟩
  · have hkept : row.mode = .studentCorrection → row.kept = false := fun hmode =>
      ((hinv.rows id row hrow).correction hmode).2.2
    exact ⟨answer, hanswers, .inr ⟨row, _, hsaved, hrow, hversion, hrows,
      framed_iff (hstored.rows id row hrow) hkept hedit⟩⟩

namespace Example

open Marks.Example (told)

/-- Another colour, and nothing else. -/
def recolour (version : Nat) : UpdateDto where
  version := version
  sessionId := none
  parts := none
  kept := none
  rule := .absent
  customLabel := .absent
  style := none
  color := .value "#ff8800"
  note := .absent
  outcome := .absent

/-- A label of 32 characters, which are 61 units. -/
def smiles : String := String.ofList (List.replicate 29 '😀' ++ ['a', ' ', 'b'])

def lesson : CreateDto where
  id := "mark-of-monday"
  mode := .lesson
  sectionId := none
  sessionId := none
  studentId := none
  hifzEntryId := none
  parts := [⟨1, 1, some 0, none⟩]
  kept := none
  rule := some "ghunnah"
  customLabel := some smiles
  style := none
  color := none
  note := none
  outcome := none

/-- What the tables say of a mark that is about nobody. -/
def nobody : Reply := ⟨some "acme", some none, false, true, false, true⟩

def labelled : List Marks.Event :=
  .call (.request 0 (.looking "zayd" "tajweed-1" lesson)) :: List.replicate 3 (.call (.resume 0 nobody))

def stopRecoloured : List History.Event := update 1 "zayd" "tajweed-1" "mark-of-bilal" (recolour 2) [told, told]

def smilesRecoloured : List History.Event := update 1 "zayd" "tajweed-1" "mark-of-monday" (recolour 1) [nobody, nobody]

end Example

open Example in
open Marks.Example (twoWords empty sitting empty_initial) in
theorem stop_kept : ∃ s t row next, run (Marks.step twoWords) empty sitting = some s ∧
    run (History.step twoWords) s.history stopRecoloured = some t ∧
    s.history.rows.get "mark-of-bilal" = some row ∧ t.rows.get "mark-of-bilal" = some next ∧
    row.content.customLabel = some "stop" ∧ next.content.color = some "#ff8800" ∧ Framed (recolour 2) row next := by
  have hseen : (do
      let s ← run (Marks.step twoWords) empty sitting
      let t ← run (History.step twoWords) s.history stopRecoloured
      let row ← s.history.rows.get "mark-of-bilal"
      let next ← t.rows.get "mark-of-bilal"
      return ((t.calls.get 1).isNone, row.content.customLabel, tidy (recolour 2) row, row.content.color,
        next.content.color)) = some (true, some "stop", true, none, some "#ff8800") := by decide
  obtain ⟨s, hs, hseen⟩ := Option.bind_eq_some_iff.1 hseen
  obtain ⟨t, ht, hseen⟩ := Option.bind_eq_some_iff.1 hseen
  obtain ⟨row, hrow, hseen⟩ := Option.bind_eq_some_iff.1 hseen
  obtain ⟨next, hnext, hseen⟩ := Option.bind_eq_some_iff.1 hseen
  have hall := Option.some.inj hseen
  simp only [Prod.mk.injEq] at hall
  obtain ⟨hover, hlabel, htidy, hbefore, hafter⟩ := hall
  refine ⟨s, t, row, next, hs, ht, hrow, hnext, hlabel, hafter, ?_⟩
  obtain ⟨answer, -, ⟨e, -, hrows, -⟩ | ⟨row', next', -, hrow', -, hrows, hframed⟩⟩ :=
    update_frames empty_initial hs ht (Option.isNone_iff_eq_none.1 hover)
  · -- The colour is another one, so it was not refused.
    rw [hrows, hrow] at hnext
    cases hnext
    rw [hbefore] at hafter
    cases hafter
  · cases hrow.symm.trans hrow'
    rw [hrows, Table.get_modify_self, hrow] at hnext
    cases hnext
    exact hframed.2 htidy

open Example in
open Marks.Example (twoWords empty) in
/-- The label is cut after its last space; an edit of the colour takes this space away. -/
theorem label_trimmed : ∃ s t row next, run (Marks.step twoWords) empty labelled = some s ∧
    run (History.step twoWords) s.history smilesRecoloured = some t ∧
    s.history.rows.get "mark-of-monday" = some row ∧ t.rows.get "mark-of-monday" = some next ∧
    next.version = row.version + 1 ∧ ¬Framed (recolour 1) row next := by
  have hseen : (do
      let s ← run (Marks.step twoWords) empty labelled
      let t ← run (History.step twoWords) s.history smilesRecoloured
      let row ← s.history.rows.get "mark-of-monday"
      let next ← t.rows.get "mark-of-monday"
      return (decide (next.version = row.version + 1), decide (next.content.customLabel = row.content.customLabel))) =
        some (true, false) := by decide +kernel
  obtain ⟨s, hs, hseen⟩ := Option.bind_eq_some_iff.1 hseen
  obtain ⟨t, ht, hseen⟩ := Option.bind_eq_some_iff.1 hseen
  obtain ⟨row, hrow, hseen⟩ := Option.bind_eq_some_iff.1 hseen
  obtain ⟨next, hnext, hseen⟩ := Option.bind_eq_some_iff.1 hseen
  have hall := Option.some.inj hseen
  simp only [Prod.mk.injEq, decide_eq_true_eq, decide_eq_false_iff_not] at hall
  exact ⟨s, t, row, next, hs, ht, hrow, hnext, hall.1, fun hframed => hall.2 (hframed.customLabel rfl)⟩

end Livetich.Tajweed.Frame
