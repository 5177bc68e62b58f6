/-
What a review takes for the submission's code (`CodingAiReviewService.review`): what `forSubmission` finds
at the commit, or else the archive. Each layer answers with nothing both where there is nothing and where
it could not look, so a review can go ahead on code that nobody read.
-/
import Livetich.Coding.Prompt
import Livetich.Coding.Ruling
import Livetich.Workspace.ReviewBudget

namespace Livetich.Coding

open Livetich.Lib
open Livetich.Workspace (ReviewSource Tree CommitRef aiTextBudgetBytes isReviewable allReviewable resolveCommitRef
  NoDiff StartsFrom Shape Barren nonEmpty)

/-! ## A review from start to end -/

/-- What a review finds outside of its tables: GitHub and its reading order, the rows that lead from a
submission to its repository, and the storage with its archives. -/
structure Outside (Buffer : Type) where
  gh : Workspace.GitHub
  collation : Workspace.Collation
  rows : Workspace.Rows
  storage : SubmissionId → Except String (Option Buffer)
  adm : Buffer → Option (List ZipEntry)

/-- The columns of a submission that its commit is found by. -/
def CodingSubmission.commitRow (row : CodingSubmission) : Workspace.Submission :=
  ⟨row.assignmentId, row.studentId, row.attemptNumber, row.commitSha, row.workspaceId⟩

def commitRows (db : Db) : Table SubmissionId Workspace.Submission where
  entries := db.submissions.entries.map fun e => (e.1, e.2.commitRow)
  nodup := by
    rw [List.map_map]
    exact db.submissions.nodup

variable {Buffer : Type}

def readSubmissionText (o : Outside Buffer) (submissionId : SubmissionId) (maxTotalBytes : Nat) :
    Except String (List ArchiveTextFile) := do
  match ← o.storage submissionId with
  | none => return []
  | some buffer => readTextFiles o.adm buffer (some maxTotalBytes)

/-- `fromCommit ?? renderArchiveFiles(..)`, before it is rendered. -/
def reviewSource (o : Outside Buffer) (db : Db) (submissionId : SubmissionId) : Except String Shown := do
  match ← ReviewSource.forSubmission o.gh o.collation o.rows (commitRows db) submissionId aiTextBudgetBytes with
  | some source => return .commit source
  | none =>
    let files ← readSubmissionText o submissionId aiTextBudgetBytes
    return .archive files

/-- The model's answer to a prompt, parsed; a request or an answer that is no good throws. -/
abbrev Gemini := String → Except String ReviewOutput

/-- `review` up to its broadcast, which creates review row `r`; and the calls of `callGemini`. -/
def review (o : Outside Buffer) (gemini : Gemini) (s : State) (x : SubmissionId) (r : ReviewId) :
    Option (State × List (CodingAssignment × String)) := do
  let row ← s.db.submissions.get x
  let assignment ← s.db.assignments.get row.assignmentId
  let s := (s.create x r).setStatus x .underReview
  if !s.gemini then return (s.fail x r "AI review is not configured", [])
  else
    match reviewSource o s.db x with
    | .error message => return (s.fail x r message, [])
    | .ok shown =>
      let calls := [(assignment, shown.text)]
      match gemini (prompt assignment shown.text) with
      | .error message => return (s.fail x r message, calls)
      | .ok out => return (s.persist x r assignment.requirements out, calls)

/-! ## What was there -/

section Purpose

variable (o : Outside Buffer) (db : Db) (x : SubmissionId)

/-- GitHub listed the submission's tree. -/
def TreeListed (tree : Tree) : Prop :=
  ∃ ref, resolveCommitRef o.rows (commitRows db) x = some ref ∧
    o.gh.listTree ref.installationId ref.repoRef ref.sha = .ok (some tree)

/-- The submission's tree was read and has no reviewable file; or, where there is none, its archive. -/
def NothingThere : Prop :=
  (∃ tree, TreeListed o db x tree ∧ ∀ f ∈ tree.files, isReviewable f.path f.size = false) ∨
  ((∀ tree, ¬ TreeListed o db x tree) ∧ ∃ buffer entries, o.storage x = .ok (some buffer) ∧
    o.adm buffer = some entries ∧ ∀ entry ∈ entries, entry.isRead = false)

/-- There is no tree, no comparison and no archive to be had. -/
structure CouldNotRead : Prop where
  tree : ∀ tree, ¬ TreeListed o db x tree
  comparison : ∀ ref base comparison, resolveCommitRef o.rows (commitRows db) x = some ref →
    nonEmpty ref.previousSha = some base →
    o.gh.compareCommits ref.installationId ref.repoRef base ref.sha ≠ .ok (some comparison)
  archive : ∀ buffer, o.storage x ≠ .ok (some buffer)

/-- The review row and the submission after a failed review. -/
def FailedReview (s : State) (x : SubmissionId) (r : ReviewId) : Prop :=
  (s.db.reviews.get r).map (fun row => (row.status, row.score)) = some (.error, none) ∧
    (s.db.submissions.get x).map (·.status) = some .needsReview

/-- Nothing is reviewed by mistake, whatever the model answers. -/
structure NothingByMistake (s : State) (x : SubmissionId) : Prop where
  block : ∀ gemini r s' calls assignment, review o gemini s x r = some (s', calls) →
    (assignment, noFiles) ∈ calls → NothingThere o s.db x
  failed : CouldNotRead o s.db x → ∀ gemini r s' calls, s.db.reviews.get r = none →
    review o gemini s x r = some (s', calls) → FailedReview s' x r

/-- No request fails and no file is read: there is neither a tree nor an archive, or the tree has
reviewable files and none of them can be read. -/
inductive Unread : Prop
  | missing : o.storage x = .ok none →
    (∀ ref, resolveCommitRef o.rows (commitRows db) x = some ref → NoDiff o.gh o.collation ref aiTextBudgetBytes ∧
      StartsFrom o.gh ref (fun _ => True) ∧
      o.gh.listTree ref.installationId ref.repoRef ref.sha = .ok none) → Unread
  | unreadable {ref : CommitRef} {tree : Tree} : resolveCommitRef o.rows (commitRows db) x = some ref →
    NoDiff o.gh o.collation ref aiTextBudgetBytes → StartsFrom o.gh ref (· = none) →
    o.gh.listTree ref.installationId ref.repoRef ref.sha = .ok (some tree) →
    (∃ f ∈ tree.files, isReviewable f.path f.size = true) →
    Barren (ref.read o.gh) aiTextBudgetBytes (allReviewable o.collation tree) → Unread

end Purpose

/-! ## When the block says that there is nothing -/

theorem head_joinLines {line : String} {c : Char} (h : line.toList.head? = some c) (lines : List String) :
    (joinLines (line :: lines)).toList.head? = some c := by
  unfold joinLines
  rw [String.toList_intercalate]
  cases lines with
  | nil => simpa using h
  | cons next lines =>
    rw [List.map_cons, List.map_cons, List.intercalate_cons_cons, List.append_assoc, List.head?_append, h]
    rfl

theorem head_renderHeader (source : ReviewSource) : (renderHeader source).toList.head? = some 'T' := by
  unfold renderHeader
  cases source.kind with
  | diff => exact head_joinLines (by decide) _
  | template => exact head_joinLines (by decide) _
  | full => exact head_joinLines (by decide) _

theorem ne_noFiles {text : String} (h : text.toList.head? = some 'T') : text ≠ noFiles := by
  rintro rfl
  exact absurd h (by decide)

theorem renderSource_eq_noFiles {source : ReviewSource} :
    renderSource source = noFiles ↔ source.files = [] ∧ source.patches = [] ∧ source.kind ≠ .template := by
  have hheader : ∀ rest, renderHeader source ++ rest ≠ noFiles := by
    intro rest
    refine ne_noFiles ?_
    rw [String.toList_append, List.head?_append, head_renderHeader]
    rfl
  unfold renderSource
  simp only
  split
  · rename_i hempty
    split
    · rename_i htemplate
      exact ⟨fun h => absurd h (hheader _), fun h => absurd htemplate h.2.2⟩
    · rename_i htemplate
      exact ⟨fun _ => ⟨hempty.1, hempty.2, htemplate⟩, fun _ => rfl⟩
  · rename_i hempty
    exact ⟨fun h => absurd h (hheader _), fun h => absurd ⟨h.1, h.2.1⟩ hempty⟩

theorem renderArchiveFiles_eq_noFiles {files : List ArchiveTextFile} :
    renderArchiveFiles files = noFiles ↔ files = [] := by
  unfold renderArchiveFiles
  split
  · rename_i hempty
    exact ⟨fun _ => hempty, fun _ => rfl⟩
  · rename_i hempty
    refine ⟨fun h => absurd h (ne_noFiles ?_), fun h => absurd h hempty⟩
    have hhead : "This is an uploaded archive of the whole submission.\n\nFiles:\n".toList.head? = some 'T' := by
      decide
    rw [String.toList_append, List.head?_append, hhead]
    rfl

/-! ## What the source comes from -/

variable {o : Outside Buffer} {db : Db} {x : SubmissionId}

/-- Where the source is the archive, no commit was found, or it could not be listed. -/
def NoCommit (o : Outside Buffer) (db : Db) (x : SubmissionId) : Prop :=
  ∀ ref, resolveCommitRef o.rows (commitRows db) x = some ref → NoDiff o.gh o.collation ref aiTextBudgetBytes ∧
    StartsFrom o.gh ref (fun _ => True) ∧ o.gh.listTree ref.installationId ref.repoRef ref.sha = .ok none

theorem NoCommit.not_listed (h : NoCommit o db x) (tree : Tree) : ¬ TreeListed o db x tree := by
  rintro ⟨ref, href, htree⟩
  rw [(h ref href).2.2] at htree
  cases htree

theorem forSubmission_none : ReviewSource.forSubmission o.gh o.collation o.rows (commitRows db) x aiTextBudgetBytes =
    .ok none ↔ NoCommit o db x := by
  unfold ReviewSource.forSubmission NoCommit
  cases href : resolveCommitRef o.rows (commitRows db) x with
  | none => exact ⟨fun _ _ h => (by cases h), fun _ => rfl⟩
  | some ref =>
    constructor
    · rintro h _ ⟨⟩
      cases Workspace.forCommit_shape h with
      | unlisted hnone hstart htree => exact ⟨hnone, hstart, htree⟩
    · intro h
      obtain ⟨hnone, hstart, htree⟩ := h ref rfl
      exact Workspace.shape_forCommit (.unlisted hnone hstart htree)

/-- What a source comes from: a commit in one of its shapes, or the archive. -/
theorem reviewSource_ok {shown : Shown} (h : reviewSource o db x = .ok shown) :
    (∃ ref source, resolveCommitRef o.rows (commitRows db) x = some ref ∧ shown = .commit source ∧
      Shape o.gh o.collation ref aiTextBudgetBytes (some source)) ∨
    (∃ files, NoCommit o db x ∧ shown = .archive files ∧ readSubmissionText o x aiTextBudgetBytes = .ok files) := by
  obtain ⟨answer, hanswer, h⟩ := bind_ok_iff.1 h
  cases answer with
  | some source =>
    cases h
    obtain ⟨ref, href, hshape⟩ := Workspace.forSubmission_shape hanswer
    exact .inl ⟨ref, source, href, rfl, hshape⟩
  | none =>
    obtain ⟨files, hfiles, h⟩ := bind_ok_iff.1 h
    cases h
    exact .inr ⟨files, forSubmission_none.1 hanswer, rfl, hfiles⟩

theorem mem_allReviewable {collation : Workspace.Collation} {tree : Tree} :
    allReviewable collation tree = [] ↔ ∀ f ∈ tree.files, isReviewable f.path f.size = false := by
  unfold allReviewable
  rw [← List.length_eq_zero_iff, List.length_mergeSort, List.length_eq_zero_iff, List.map_eq_nil_iff,
    List.filter_eq_nil_iff]
  simp

/-- The block says that there is nothing where there is nothing, or where nothing was read. -/
theorem reviewSource_noFiles {shown : Shown} (h : reviewSource o db x = .ok shown) (htext : shown.text = noFiles) :
    NothingThere o db x ∨ Unread o db x := by
  rcases reviewSource_ok h with ⟨ref, source, href, rfl, hshape⟩ | ⟨files, hnone, rfl, hfiles⟩
  · obtain ⟨hfiles, hpatches, hkind⟩ := renderSource_eq_noFiles.1 htext
    cases hshape with
    | diff _ _ _ hcontent =>
      rcases hcontent with hcontent | hcontent
      · exact absurd hfiles hcontent
      · exact absurd hpatches hcontent
    | template => exact absurd rfl hkind
    | @full tree files cut hnone hstart htree hfetched =>
      by_cases hall : allReviewable o.collation tree = []
      · exact .inl (.inl ⟨tree, ⟨ref, href, htree⟩, mem_allReviewable.1 hall⟩)
      · obtain rfl : files = [] := hfiles
        refine .inr (.unreadable href hnone hstart htree ?_ (Workspace.fetchWithin_nil_iff.1 ⟨cut, hfetched⟩))
        rw [mem_allReviewable] at hall
        simpa using hall
  · obtain rfl := renderArchiveFiles_eq_noFiles.1 htext
    obtain ⟨stored, hstored, hfiles⟩ := bind_ok_iff.1 hfiles
    cases stored with
    | none => exact .inr (.missing hstored hnone)
    | some buffer =>
      unfold readTextFiles at hfiles
      simp only at hfiles
      split at hfiles
      · cases hfiles
      · rename_i entries hzip
        exact .inl (.inr ⟨hnone.not_listed, buffer, entries, hstored, hzip, readEntries_nil (by decide) hfiles⟩)

theorem Unread.reviewSource_ok (h : Unread o db x) :
    ∃ shown, reviewSource o db x = .ok shown ∧ shown.text = noFiles := by
  cases h with
  | missing hstored hnone =>
    refine ⟨.archive [], ?_, rfl⟩
    unfold reviewSource readSubmissionText
    rw [forSubmission_none.2 hnone, hstored]
    rfl
  | @unreadable ref tree href hnone hstart htree _ hbarren =>
    obtain ⟨cut, hfetched⟩ := Workspace.fetchWithin_nil_iff.2 hbarren
    have htext : renderSource ⟨.full, [], [], cut || tree.truncated, none⟩ = noFiles :=
      renderSource_eq_noFiles.2 ⟨rfl, rfl, by simp⟩
    refine ⟨.commit ⟨.full, [], [], cut || tree.truncated, none⟩, ?_, htext⟩
    have hcommit := Workspace.shape_forCommit (.full hnone hstart htree hfetched)
    unfold reviewSource ReviewSource.forSubmission
    rw [href]
    show (ReviewSource.forCommit _ _ _ _ >>= _) = _
    rw [hcommit]
    rfl

theorem Unread.not_nothingThere (h : Unread o db x) : ¬ NothingThere o db x := by
  cases h with
  | missing hstored hnone =>
    rintro (⟨tree, htree, -⟩ | ⟨-, buffer, entries, hbuffer, -⟩)
    · exact NoCommit.not_listed hnone tree htree
    · rw [hstored] at hbuffer
      cases hbuffer
  | @unreadable ref tree href _ _ htree hsome _ =>
    obtain ⟨f, hmem, hreviewable⟩ := hsome
    rintro (⟨other, ⟨ref', href', hother⟩, hall⟩ | ⟨hnone, -⟩)
    · rw [href] at href'
      cases href'
      rw [htree] at hother
      cases hother
      rw [hall f hmem] at hreviewable
      cases hreviewable
    · exact hnone tree ⟨ref, href, htree⟩

/-- Where there is nothing to be had, a source is one that nobody read. -/
theorem CouldNotRead.unread (h : CouldNotRead o db x) {shown : Shown} (hshown : reviewSource o db x = .ok shown) :
    Unread o db x := by
  rcases Coding.reviewSource_ok hshown with ⟨ref, source, href, -, hshape⟩ | ⟨files, hnone, -, hfiles⟩
  · exfalso
    cases hshape with
    | diff hbase hcompare _ _ => exact h.comparison _ _ _ href hbase hcompare
    | template _ _ htree _ _ => exact h.tree _ ⟨ref, href, htree⟩
    | full _ _ htree _ => exact h.tree _ ⟨ref, href, htree⟩
  · obtain ⟨stored, hstored, -⟩ := bind_ok_iff.1 hfiles
    cases stored with
    | none => exact .missing hstored hnone
    | some buffer => exact absurd hstored (h.archive buffer)

/-! ## The review -/

variable {gemini : Gemini} {s s' : State} {r : ReviewId} {calls : List (CodingAssignment × String)}

/-- The state in which a review reads its source. -/
def started (s : State) (x : SubmissionId) (r : ReviewId) : State := (s.create x r).setStatus x .underReview

/-- The new status of the submission is none of the columns that its commit is found by. -/
theorem reviewSource_started (o : Outside Buffer) (s : State) (x : SubmissionId) (r : ReviewId) :
    reviewSource o (started s x r).db x = reviewSource o s.db x := by
  have hrows : commitRows (started s x r).db = commitRows s.db := by
    have hentries : (commitRows (started s x r).db).entries = (commitRows s.db).entries := by
      show ((s.db.submissions.modify x fun row => { row with status := .underReview }).entries.map _) = _
      rw [Table.entries_modify, List.map_map]
      refine List.map_congr_left fun e _ => ?_
      show ((if e.1 = x then (e.1, { e.2 with status := .underReview }) else e).1,
        (if e.1 = x then (e.1, { e.2 with status := .underReview }) else e).2.commitRow) = _
      split <;> rfl
    cases h : commitRows (started s x r).db
    cases h' : commitRows s.db
    rw [h, h'] at hentries
    simp only at hentries
    simp only [hentries]
  unfold reviewSource
  rw [hrows]

/-- How a review ends: it fails without a call, or calls the model with the source. -/
inductive Reviewed (o : Outside Buffer) (gemini : Gemini) (s : State) (x : SubmissionId) (r : ReviewId)
    (a : CodingAssignment) : State → List (CodingAssignment × String) → Prop
  | unconfigured : s.gemini = false →
    Reviewed o gemini s x r a ((started s x r).fail x r "AI review is not configured") []
  | failed {message : String} : s.gemini = true → reviewSource o s.db x = .error message →
    Reviewed o gemini s x r a ((started s x r).fail x r message) []
  | rejected {shown : Shown} {message : String} : s.gemini = true → reviewSource o s.db x = .ok shown →
    gemini (prompt a shown.text) = .error message →
    Reviewed o gemini s x r a ((started s x r).fail x r message) [(a, shown.text)]
  | done {shown : Shown} {out : ReviewOutput} : s.gemini = true → reviewSource o s.db x = .ok shown →
    gemini (prompt a shown.text) = .ok out →
    Reviewed o gemini s x r a ((started s x r).persist x r a.requirements out) [(a, shown.text)]

theorem review_some (h : review o gemini s x r = some (s', calls)) : ∃ row a,
    s.db.submissions.get x = some row ∧ s.db.assignments.get row.assignmentId = some a ∧
      Reviewed o gemini s x r a s' calls := by
  unfold review at h
  obtain ⟨row, hrow, h⟩ := Option.bind_eq_some_iff.1 h
  obtain ⟨a, ha, h⟩ := Option.bind_eq_some_iff.1 h
  refine ⟨row, a, hrow, ha, ?_⟩
  simp only at h
  have hkey : ((s.create x r).setStatus x .underReview).gemini = s.gemini := rfl
  have hsource := reviewSource_started o s x r
  unfold started at hsource
  rw [hkey, hsource] at h
  cases hgemini : s.gemini with
  | false =>
    rw [hgemini] at h
    cases h
    exact .unconfigured hgemini
  | true =>
    rw [hgemini] at h
    simp only [Bool.not_true, Bool.false_eq_true, if_false] at h
    cases hsource : reviewSource o s.db x with
    | error message =>
      rw [hsource] at h
      cases h
      exact .failed hgemini hsource
    | ok shown =>
      rw [hsource] at h
      simp only at h
      cases hanswer : gemini (prompt a shown.text) with
      | error message =>
        rw [hanswer] at h
        cases h
        exact .rejected hgemini hsource hanswer
      | ok out =>
        rw [hanswer] at h
        cases h
        exact .done hgemini hsource hanswer

theorem failedReview {row : CodingSubmission} (hrow : s.db.submissions.get x = some row)
    (hfresh : s.db.reviews.get r = none) (message : String) :
    FailedReview ((started s x r).fail x r message) x r := by
  unfold FailedReview started State.create State.setStatus State.fail
  simp only [Table.get_modify_self, Table.get_insert hfresh, if_true, hrow, Option.map_some, and_self]

/-- A run that goes on by one step. -/
theorem run_step {t u : State} {e : Event} (h : ∃ es, TransSys.run step s es = some t) (he : step t e = some u) :
    ∃ es, TransSys.run step s es = some u := by
  obtain ⟨es, hrun⟩ := h
  refine ⟨es ++ [e], ?_⟩
  rw [TransSys.run_append, hrun]
  exact TransSys.run_cons.2 ⟨u, he, rfl⟩

theorem step_throws {t : State} {i : Nat} {task : Task} (ht : t.tasks.get i = some task) (message : String) :
    step t (.throws i message) = some (t.goto i (task.caught message)) := by
  simp only [step, ht, Option.map_some]

/-- The tasks of the pipeline do what `review` does, from one answer to the next. -/
theorem review_run (hfresh : s.db.reviews.get r = none) {i : Nat} (hi : s.tasks.get i = none)
    (h : review o gemini s x r = some (s', calls)) :
    ∃ t, (∃ es, TransSys.run step s es = some t) ∧ t.db = s'.db := by
  obtain ⟨row, a, hrow, ha, hreviewed⟩ := review_some h
  let s₁ := s.goto i (some (.load x))
  let s₂ := s₁.goto i (some (.create x a.requirements))
  let s₃ := (s₂.create x r).goto i (some (.start x r a.requirements))
  let next : Task := if s.gemini then .render x r a.requirements else .fail x r "AI review is not configured"
  let s₄ := (s₃.setStatus x .underReview).goto i (some next)
  have h₁ : step s (.enqueue i x) = some s₁ := if_pos hi
  have h₂ : step s₁ (.resume i) = some s₂ := by
    refine (resume_of (get_goto _ _ _)).trans ?_
    show some (s₁.goto i ((s.db.submissions.get x).bind fun row =>
      (s.db.assignments.get row.assignmentId).map fun a => .create x a.requirements)) = _
    rw [hrow, Option.bind_some, ha]
    rfl
  have h₃ : step s₂ (.created i r) = some s₃ := by
    simp only [step]
    rw [show s₂.tasks.get i = some (.create x a.requirements) from get_goto _ _ _]
    exact if_pos hfresh
  have h₄ : step s₃ (.resume i) = some s₄ := (resume_of (get_goto _ _ _)).trans rfl
  have hstart := run_step (run_step (run_step (run_step ⟨[], rfl⟩ h₁) h₂) h₃) h₄
  have hnext : s₄.tasks.get i = some next := get_goto _ _ _
  -- A failure ends in the task that writes it.
  have hfail : ∀ {t : State} {message : String}, (∃ es, TransSys.run step s es = some t) →
      t.db = (started s x r).db → t.tasks.get i = some (.fail x r message) →
      ∃ u, (∃ es, TransSys.run step s es = some u) ∧ u.db = ((started s x r).fail x r message).db := by
    intro t message hrun hdb ht
    refine ⟨_, run_step hrun ((resume_of ht).trans rfl), ?_⟩
    show (t.fail x r message).db = _
    unfold State.fail
    rw [hdb]
  have hcall : ∀ shown : Shown, s.gemini = true → ∃ t, (∃ es, TransSys.run step s es = some t) ∧
      t.db = (started s x r).db ∧ t.tasks.get i = some (.callGemini x r a.requirements) := by
    intro shown hgemini
    have hrender : s₄.tasks.get i = some (.render x r a.requirements) := by
      rw [hnext]
      exact congrArg some (if_pos hgemini)
    cases shown with
    | commit source =>
      refine ⟨s₄.goto i (some (.callGemini x r a.requirements)), run_step (e := .rendered i true) hstart ?_, rfl,
        get_goto _ _ _⟩
      simp only [step, hrender]
      rfl
    | archive files =>
      let s₅ := s₄.goto i (some (.readText x r a.requirements))
      have h₅ : step s₄ (.rendered i false) = some s₅ := by
        simp only [step, hrender]
        rfl
      exact ⟨s₅.goto i (some (.callGemini x r a.requirements)),
        run_step (run_step hstart h₅) ((resume_of (get_goto _ _ _)).trans rfl), rfl, get_goto _ _ _⟩
  cases hreviewed with
  | unconfigured hgemini =>
    refine hfail hstart rfl ?_
    rw [hnext]
    exact congrArg some (if_neg (by simp [hgemini]))
  | failed hgemini _ =>
    have hrender : s₄.tasks.get i = some (.render x r a.requirements) := by
      rw [hnext]
      exact congrArg some (if_pos hgemini)
    exact hfail (run_step hstart (step_throws hrender _)) rfl (get_goto _ _ _)
  | @rejected shown message hgemini _ _ =>
    obtain ⟨t, hrun, hdb, ht⟩ := hcall shown hgemini
    exact hfail (run_step hrun (step_throws ht message)) hdb (get_goto _ _ _)
  | @done shown out hgemini _ _ =>
    obtain ⟨t, hrun, hdb, ht⟩ := hcall shown hgemini
    have hanswer : step t (.answered i out) = some (t.goto i (some (.persist x r a.requirements out))) := by
      simp only [step, ht]
    refine ⟨_, run_step (run_step hrun hanswer) ((resume_of (get_goto _ _ _)).trans rfl), ?_⟩
    show (t.persist x r a.requirements out).db = _
    unfold State.persist
    rw [hdb]

/-- The model is called with every source that is found. -/
theorem review_calls {row : CodingSubmission} {a : CodingAssignment} (hrow : s.db.submissions.get x = some row)
    (ha : s.db.assignments.get row.assignmentId = some a) (hgemini : s.gemini = true) {shown : Shown}
    (hshown : reviewSource o s.db x = .ok shown) : ∃ s', review o gemini s x r = some (s', [(a, shown.text)]) := by
  have hkey : ((s.create x r).setStatus x .underReview).gemini = true := hgemini
  rw [← reviewSource_started o s x r, started] at hshown
  unfold review
  simp only [hrow, ha, hkey, hshown, Option.bind_eq_bind, Option.bind_some, Bool.not_true, Bool.false_eq_true, if_false]
  cases gemini (prompt a shown.text) with
  | error message => exact ⟨_, rfl⟩
  | ok out => exact ⟨_, rfl⟩

/-- Nothing is reviewed by mistake exactly when no model is configured, or a request fails, or something
was read or there was nothing to read. -/
theorem review_by_mistake_iff {row : CodingSubmission} {a : CodingAssignment}
    (hrow : s.db.submissions.get x = some row) (ha : s.db.assignments.get row.assignmentId = some a) :
    NothingByMistake o s x ↔ s.gemini = false ∨ ¬ Unread o s.db x := by
  constructor
  · intro h
    by_contra hnot
    obtain ⟨hgemini, hunread⟩ := not_or.1 hnot
    rw [Bool.not_eq_false] at hgemini
    rw [not_not] at hunread
    obtain ⟨shown, hshown, htext⟩ := hunread.reviewSource_ok
    obtain ⟨s', hreview⟩ := @review_calls Buffer o x (fun _ => .error "") s "r" row a hrow ha hgemini shown hshown
    refine hunread.not_nothingThere (h.block _ "r" s' _ a hreview ?_)
    rw [htext]
    exact List.mem_singleton.2 rfl
  · intro hcond
    have hread : ∀ shown, s.gemini = true → reviewSource o s.db x = .ok shown → ¬ Unread o s.db x := by
      intro shown hgemini _
      exact hcond.resolve_left (by simp [hgemini])
    refine ⟨?_, ?_⟩
    · intro gemini r s' calls assignment hreview hmem
      obtain ⟨_, _, _, _, hreviewed⟩ := review_some hreview
      cases hreviewed with
      | unconfigured => cases hmem
      | failed => cases hmem
      | rejected hgemini hshown =>
        have htext := (Prod.mk.inj (List.mem_singleton.1 hmem)).2
        exact (reviewSource_noFiles hshown htext.symm).resolve_right (hread _ hgemini hshown)
      | done hgemini hshown =>
        have htext := (Prod.mk.inj (List.mem_singleton.1 hmem)).2
        exact (reviewSource_noFiles hshown htext.symm).resolve_right (hread _ hgemini hshown)
    · intro hcould gemini r s' calls hfresh hreview
      obtain ⟨row', _, hrow', _, hreviewed⟩ := review_some hreview
      cases hreviewed with
      | unconfigured => exact failedReview hrow' hfresh _
      | failed => exact failedReview hrow' hfresh _
      | rejected hgemini hshown => exact absurd (hcould.unread hshown) (hread _ hgemini hshown)
      | done hgemini hshown => exact absurd (hcould.unread hshown) (hread _ hgemini hshown)

namespace Example

/-- A commit, and an institution whose connection to GitHub has lapsed. -/
def lapsed : Outside Unit where
  gh := Workspace.Example.hub
  collation := Workspace.Example.alphabetical
  rows := { Workspace.Example.reviewed with connections := fun _ => none }
  storage := fun _ => .ok none
  adm := fun _ => none

/-- The same with an archive that holds a picture only. -/
def pictureOnly : Outside Unit :=
  { lapsed with storage := fun _ => .ok (some ()), adm := fun _ => some [⟨false, "todo.png", 4000, .ok ""⟩] }

def committed : CodingSubmission := { row with commitSha := some "c1", workspaceId := some "e1" }

def submitted : State := start.submit "x" committed []

theorem resolve_lapsed : resolveCommitRef lapsed.rows (commitRows submitted.db) "x" = none := by decide

end Example

open Example in
/-- The commit cannot be read, and the review is done, with a score for a block that says so. -/
theorem lapsed_scored : CouldNotRead lapsed submitted.db "x" ∧ ¬ NothingThere lapsed submitted.db "x" ∧
    ∃ s' calls, review lapsed (fun _ => .ok (output .high)) submitted "x" "r1" = some (s', calls) ∧
      calls.map (·.2) = [noFiles] ∧
      (s'.db.reviews.get "r1").map (fun row => (row.status, row.score)) = some (.done, some 80) ∧
      (s'.db.submissions.get "x").map (·.status) = some .aiReviewed := by
  have hnone : ∀ tree, ¬ TreeListed lapsed submitted.db "x" tree := by
    rintro tree ⟨ref, href, -⟩
    rw [resolve_lapsed] at href
    cases href
  refine ⟨⟨hnone, ?_, fun buffer h => by cases h⟩, ?_, ?_⟩
  · intro ref base comparison href
    rw [resolve_lapsed] at href
    cases href
  · rintro (⟨tree, htree, -⟩ | ⟨-, buffer, -, h, -⟩)
    · exact hnone tree htree
    · cases h
  · have hshown : reviewSource lapsed (started submitted "x" "r1").db "x" = .ok (.archive []) := by
      rw [reviewSource_started]
      unfold reviewSource ReviewSource.forSubmission
      rw [resolve_lapsed]
      rfl
    refine ⟨(started submitted "x" "r1").persist "x" "r1" assignment.requirements (output .high),
      [(assignment, noFiles)], ?_, rfl, by decide, by decide⟩
    unfold started at hshown
    unfold review
    simp only [hshown]
    rfl

open Example in
/-- An archive without a text file is one where there is nothing to review. -/
theorem picture_not_by_mistake : NothingByMistake pictureOnly submitted "x" := by
  have hrow : submitted.db.submissions.get "x" = some committed := by rfl
  refine (review_by_mistake_iff hrow (a := assignment) (by rfl)).2 (.inr ?_)
  rintro (⟨hstored, -⟩ | ⟨href, -⟩)
  · cases hstored
  · have hnone : resolveCommitRef pictureOnly.rows (commitRows submitted.db) "x" = none := resolve_lapsed
    rw [hnone] at href
    cases href

end Livetich.Coding
