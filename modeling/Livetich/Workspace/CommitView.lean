/-
What an instructor is shown of a submission (`CommitViewService.forSubmission`), and how far it is of the same
shape as what the AI reviewer is shown: both fall back from the changes to the student's own part and to the
whole repository, but each has its own test for changes that there is nothing to see of.
-/
import Livetich.Workspace.ReviewSource

namespace Livetich.Workspace

open Livetich.Lib
open Livetich.Code (jsLength)

/-- `MAX_PATCH_BYTES`. -/
def maxPatchBytes : Nat := 16 * 1024

/-- `MAX_TOTAL_PATCH_BYTES`. -/
def maxTotalPatchBytes : Nat := 256 * 1024

/-- `MAX_LISTED_FILES`. -/
def maxListedFiles : Nat := 800

structure CommitViewFile where
  path : String
  status : String
  additions : Nat
  deletions : Nat
  size : Option Nat
  patch : Option String
  deriving DecidableEq

/-- What every listing says of the commit. -/
structure CommitBase where
  commitSha : String
  shortSha : String
  message : String
  committedAt : Option String
  htmlUrl : Option String
  repositoryFullName : String
  deriving DecidableEq

structure CommitView extends CommitBase where
  kind : Kind
  compareUrl : Option String
  baseSha : Option String
  baseLabel : Option String
  unchangedCount : Nat
  files : List CommitViewFile
  truncated : Bool
  deriving DecidableEq

/-- `slice(0, n)`, where a character of two units is not cut. -/
def sliceUnits : Nat → List Char → List Char
  | _, [] => []
  | n, c :: cs => if jsLength [c] ≤ n then c :: sliceUnits (n - jsLength [c]) cs else []

def capPatch (patch : String) : String :=
  if jsLength patch.toList > maxPatchBytes then
    String.ofList (sliceUnits maxPatchBytes patch.toList) ++ "\n… diff truncated"
  else patch

/-- The files of a comparison, each with its patch as long as there is room for patches. -/
def listChanged : List ComparedFile → Nat → List CommitViewFile
  | [], _ => []
  | f :: rest, spent =>
    let patch := if spent < maxTotalPatchBytes then (nonEmpty f.patch).map capPatch else none
    ⟨f.path, f.status, f.additions, f.deletions, none, patch⟩ ::
      listChanged rest (spent + (patch.map fun p => jsLength p.toList).getD 0)

def entry (file : TreeEntry) (status : String) : CommitViewFile := ⟨file.path, status, 0, 0, some file.size, none⟩

def OwnStatus.text : OwnStatus → String
  | .added => "added"
  | .modified => "modified"

variable (gh : GitHub) (collation : Collation)

namespace CommitView

def readDiff (ref : CommitRef) (previous : String) (base : CommitBase) : Except String (Option CommitView) := do
  match ← gh.compareCommits ref.installationId ref.repoRef previous ref.sha with
  | none => return none
  | some comparison =>
    return some
      { base with
        kind := .diff
        baseSha := some previous
        baseLabel := some ("attempt #" ++ toString ((ref.attemptNumber : Int) - 1))
        unchangedCount := 0
        compareUrl := some ("https://github.com/" ++ ref.fullName ++ "/compare/" ++ previous ++ "..." ++ ref.sha)
        files := listChanged (comparison.files.take maxListedFiles) 0
        truncated := comparison.truncated || maxListedFiles < comparison.files.length }

/-- The student's own files, as they are listed. -/
def mine (student template : Tree) : List CommitViewFile :=
  let own := (studentOwnFiles student.files template.files fun f => isStudentPath f.path).1
  (own.map fun f => entry f.1 f.2.text).mergeSort fun a b => collation a.path b.path

def readAgainstTemplate (ref : CommitRef) (templateRepo : String) (base : CommitBase) :
    Except String (Option CommitView) := do
  let student ← gh.listTree ref.installationId ref.repoRef ref.sha
  let template ← gh.listTree ref.installationId (ref.templateRef templateRepo) ref.templateBranch
  match student, template with
  | some student, some template =>
    return some
      { base with
        kind := .template
        baseSha := none
        baseLabel := some "the starting code"
        unchangedCount := (studentOwnFiles student.files template.files fun f => isStudentPath f.path).2
        compareUrl := none
        files := (mine collation student template).take maxListedFiles
        truncated := student.truncated || template.truncated ||
          maxListedFiles < (mine collation student template).length }
  | _, _ => return none

def readTree (ref : CommitRef) (base : CommitBase) : Except String (Option CommitView) := do
  let tree ← gh.listTree ref.installationId ref.repoRef ref.sha
  let listed := (((tree.map (·.files)).getD []).filter fun f => isStudentPath f.path).mergeSort
    fun a b => collation a.path b.path
  return some
    { base with
      kind := .full
      baseSha := none
      baseLabel := none
      unchangedCount := 0
      compareUrl := none
      files := (listed.take maxListedFiles).map fun f => entry f "present"
      truncated := (tree.map (·.truncated)).getD false || maxListedFiles < listed.length }

/-- What is shown when there is no diff, or an empty one. -/
def withoutDiff (ref : CommitRef) (base : CommitBase) : Except String (Option CommitView) := do
  let against ← (match ref.templateRepo with
    | none => .ok none
    | some templateRepo => readAgainstTemplate gh collation ref templateRepo base)
  match against with
  | some against => return some against
  | none => readTree gh collation ref base

/-- `forSubmission`, once the commit is found. -/
def forCommit (ref : CommitRef) : Except String (Option CommitView) := do
  let commit ← gh.getCommit ref.installationId ref.repoRef ref.sha
  let base : CommitBase :=
    { commitSha := ref.sha
      shortSha := String.ofList (ref.sha.toList.take 8)
      message := (commit.map (·.message)).getD ""
      committedAt := commit.bind (·.committedAt)
      htmlUrl := commit.bind (·.htmlUrl)
      repositoryFullName := ref.fullName }
  let diff ← (match nonEmpty ref.previousSha with
    | none => .ok none
    | some previous => readDiff gh ref previous base)
  match diff.filter fun d => !d.files.isEmpty with
  | some diff => return some diff
  | none => withoutDiff gh collation ref base

def forSubmission (rows : Rows) (submissions : Table SubmissionId Submission) (submissionId : SubmissionId) :
    Except String (Option CommitView) :=
  match resolveCommitRef rows submissions submissionId with
  | none => .ok none
  | some ref => forCommit gh collation ref

end CommitView

/-! ## Without a diff -/

/-- The tree of the submission and that of its starting code, when both can be read. -/
def bothTrees (ref : CommitRef) : Except String (Option (Tree × Tree)) :=
  match ref.templateRepo with
  | none => .ok none
  | some templateRepo => do
    let student ← gh.listTree ref.installationId ref.repoRef ref.sha
    let template ← gh.listTree ref.installationId (ref.templateRef templateRepo) ref.templateBranch
    return student.bind fun s => template.map fun t => (s, t)

variable {gh collation}

/-- The model gets the student's own reviewable files, or a whole repository. -/
theorem review_withoutDiff {ref : CommitRef} {budget : Nat} {r : ReviewSource}
    (h : ReviewSource.withoutDiff gh collation ref budget = .ok (some r)) :
    ∃ trees, bothTrees gh ref = .ok trees ∧ (trees = none → r.kind = .full) ∧
      ∀ s t, trees = some (s, t) → r.kind = .template ∧ ∀ f ∈ r.files, ∃ file status,
        (file, status) ∈ (studentOwnFiles s.files t.files fun g => isReviewable g.path g.size).1 ∧
          file.path = f.path := by
  obtain ⟨own, hown, h⟩ := bind_ok_iff.1 h
  have hfull : ReviewSource.readFull gh collation ref budget = .ok (some r) → r.kind = .full := fun h => by
    obtain ⟨tree, -, h⟩ := bind_ok_iff.1 h
    cases tree with
    | none => cases h
    | some tree =>
      obtain ⟨fetched, -, h⟩ := bind_ok_iff.1 h
      cases h
      rfl
  unfold bothTrees
  cases htemplate : ref.templateRepo with
  | none =>
    rw [htemplate] at hown
    cases hown
    exact ⟨none, rfl, fun _ => hfull h, fun s t ht => by cases ht⟩
  | some templateRepo =>
    rw [htemplate] at hown
    obtain ⟨student, hstudent, hown⟩ := bind_ok_iff.1 hown
    obtain ⟨template, hread, hown⟩ := bind_ok_iff.1 hown
    simp only [hstudent, hread, ok_bind]
    refine ⟨_, rfl, ?_⟩
    cases student with
    | none =>
      cases hown
      exact ⟨fun _ => hfull h, fun s t ht => by cases ht⟩
    | some student =>
      cases template with
      | none =>
        cases hown
        exact ⟨fun _ => hfull h, fun s t ht => by cases ht⟩
      | some template =>
        obtain ⟨⟨files, truncated⟩, hfetched, hown⟩ := bind_ok_iff.1 hown
        cases hown
        cases h
        refine ⟨by rintro ⟨⟩, ?_⟩
        rintro s t ⟨⟩
        refine ⟨rfl, fun f hf => ?_⟩
        have hpath := fetchWithin_paths hfetched f hf
        rw [List.mem_mergeSort] at hpath
        obtain ⟨⟨file, status⟩, hmem, heq⟩ := List.mem_map.1 hpath
        exact ⟨file, status, hmem, heq⟩

/-- The instructor gets the student's own files, or a whole repository. -/
theorem view_withoutDiff {ref : CommitRef} {base : CommitBase} {v : CommitView}
    (h : CommitView.withoutDiff gh collation ref base = .ok (some v)) :
    ∃ trees, bothTrees gh ref = .ok trees ∧ (trees = none → v.kind = .full) ∧
      ∀ s t, trees = some (s, t) → v.kind = .template ∧ (v.truncated = true ∨
        ∀ file status, (file, status) ∈ (studentOwnFiles s.files t.files fun g => isStudentPath g.path).1 →
          entry file status.text ∈ v.files) := by
  obtain ⟨against, hagainst, h⟩ := bind_ok_iff.1 h
  have hfull : CommitView.readTree gh collation ref base = .ok (some v) → v.kind = .full := fun h => by
    obtain ⟨tree, -, h⟩ := bind_ok_iff.1 h
    cases h
    rfl
  unfold bothTrees
  cases htemplate : ref.templateRepo with
  | none =>
    rw [htemplate] at hagainst
    cases hagainst
    exact ⟨none, rfl, fun _ => hfull h, fun s t ht => by cases ht⟩
  | some templateRepo =>
    rw [htemplate] at hagainst
    obtain ⟨student, hstudent, hagainst⟩ := bind_ok_iff.1 hagainst
    obtain ⟨template, hread, hagainst⟩ := bind_ok_iff.1 hagainst
    simp only [hstudent, hread, ok_bind]
    refine ⟨_, rfl, ?_⟩
    cases student with
    | none =>
      cases hagainst
      exact ⟨fun _ => hfull h, fun s t ht => by cases ht⟩
    | some student =>
      cases template with
      | none =>
        cases hagainst
        exact ⟨fun _ => hfull h, fun s t ht => by cases ht⟩
      | some template =>
        cases hagainst
        cases h
        refine ⟨by rintro ⟨⟩, ?_⟩
        rintro s t ⟨⟩
        refine ⟨rfl, ?_⟩
        by_cases hlong : maxListedFiles < (CommitView.mine collation student template).length
        · exact .inl (by simp [hlong])
        · refine .inr fun file status hmem => ?_
          show entry file status.text ∈ (CommitView.mine collation student template).take maxListedFiles
          rw [List.take_of_length_le (by omega)]
          unfold CommitView.mine
          rw [List.mem_mergeSort]
          exact List.mem_map.2 ⟨(file, status), hmem, rfl⟩

/-! ## The diff -/

/-- A comparison has something for the model: a patch, or a text that fits into what is left of the budget. -/
def Offers (gh : GitHub) (collation : Collation) (ref : CommitRef) (budget : Nat)
    (comparison : CommitComparison) : Prop :=
  patchesOf comparison ≠ [] ∨
    0 < remaining comparison budget ∧ ∃ text, firstText (ref.read gh) (readable collation comparison) = some text ∧
      jsLength text.toList ≤ remaining comparison budget

theorem not_offers_of_nil {ref : CommitRef} {budget : Nat} {comparison : CommitComparison}
    (h : comparison.files = []) : ¬Offers gh collation ref budget comparison := by
  have hreadable : readable collation comparison = [] := by
    unfold readable
    rw [h]
    exact List.mergeSort_nil
  rintro (hpatches | ⟨-, text, htext, -⟩)
  · refine hpatches ?_
    unfold patchesOf
    rw [h]
    rfl
  · rw [hreadable] at htext
    cases htext

theorem review_diff {ref : CommitRef} {budget : Nat} {r : ReviewSource}
    (h : ReviewSource.forCommit gh collation ref budget = .ok (some r)) :
    (r.kind = .diff ∧ ∃ previous comparison, nonEmpty ref.previousSha = some previous ∧
      gh.compareCommits ref.installationId ref.repoRef previous ref.sha = .ok (some comparison) ∧
      Offers gh collation ref budget comparison) ∨
    (ReviewSource.withoutDiff gh collation ref budget = .ok (some r) ∧
      ∀ previous comparison, nonEmpty ref.previousSha = some previous →
        gh.compareCommits ref.installationId ref.repoRef previous ref.sha = .ok (some comparison) →
        ¬Offers gh collation ref budget comparison) := by
  obtain ⟨diff, hdiff, h⟩ := bind_ok_iff.1 h
  cases hprevious : nonEmpty ref.previousSha with
  | none =>
    rw [hprevious] at hdiff
    cases hdiff
    exact .inr ⟨h, fun previous comparison hp => by cases hp⟩
  | some previous =>
    rw [hprevious] at hdiff
    obtain ⟨answer, hanswer, hdiff⟩ := bind_ok_iff.1 hdiff
    cases answer with
    | none =>
      cases hdiff
      refine .inr ⟨h, fun p comparison hp hc => ?_⟩
      cases hp
      rw [hanswer] at hc
      cases hc
    | some comparison =>
      obtain ⟨⟨files, truncated⟩, hfetched, hdiff⟩ := bind_ok_iff.1 hdiff
      cases hdiff
      have hoffers : ReviewSource.hasContent
          ⟨.diff, files, patchesOf comparison, truncated || comparison.truncated, some previous⟩ = true ↔
          Offers gh collation ref budget comparison := by
        unfold ReviewSource.hasContent
        rw [Bool.or_eq_true, fetchWithin_isEmpty hfetched, or_comm]
        unfold Offers
        simp
      by_cases hcontent : ReviewSource.hasContent
          ⟨.diff, files, patchesOf comparison, truncated || comparison.truncated, some previous⟩ = true
      · rw [Option.filter_some, if_pos hcontent] at h
        cases h
        exact .inl ⟨rfl, previous, comparison, rfl, hanswer, hoffers.1 hcontent⟩
      · rw [Option.filter_some, if_neg hcontent] at h
        refine .inr ⟨h, fun p c hp hc => ?_⟩
        cases hp
        rw [hanswer] at hc
        cases hc
        exact fun ho => hcontent (hoffers.2 ho)

theorem view_diff {ref : CommitRef} {v : CommitView} (h : CommitView.forCommit gh collation ref = .ok (some v)) :
    (v.kind = .diff ∧ ∃ previous comparison, nonEmpty ref.previousSha = some previous ∧
      gh.compareCommits ref.installationId ref.repoRef previous ref.sha = .ok (some comparison) ∧
      comparison.files ≠ []) ∨
    ((∃ base, CommitView.withoutDiff gh collation ref base = .ok (some v)) ∧
      ∀ previous comparison, nonEmpty ref.previousSha = some previous →
        gh.compareCommits ref.installationId ref.repoRef previous ref.sha = .ok (some comparison) →
        comparison.files = []) := by
  obtain ⟨commit, -, h⟩ := bind_ok_iff.1 h
  obtain ⟨diff, hdiff, h⟩ := bind_ok_iff.1 h
  cases hprevious : nonEmpty ref.previousSha with
  | none =>
    rw [hprevious] at hdiff
    cases hdiff
    exact .inr ⟨⟨_, h⟩, fun previous comparison hp => by cases hp⟩
  | some previous =>
    rw [hprevious] at hdiff
    obtain ⟨answer, hanswer, hdiff⟩ := bind_ok_iff.1 hdiff
    cases answer with
    | none =>
      cases hdiff
      refine .inr ⟨⟨_, h⟩, fun p comparison hp hc => ?_⟩
      cases hp
      rw [hanswer] at hc
      cases hc
    | some comparison =>
      cases hdiff
      have hfiles : (listChanged (comparison.files.take maxListedFiles) 0).isEmpty = comparison.files.isEmpty := by
        cases comparison.files with
        | nil => rfl
        | cons f rest => rfl
      by_cases hnil : comparison.files = []
      · simp only [Option.filter_some, hnil] at h
        refine .inr ⟨⟨_, h⟩, fun p c hp hc => ?_⟩
        cases hp
        rw [hanswer] at hc
        cases hc
        exact hnil
      · have hempty : comparison.files.isEmpty = false := by simpa using hnil
        simp only [Option.filter_some, hfiles, hempty, Bool.not_false, if_true] at h
        cases h
        exact .inl ⟨rfl, previous, comparison, rfl, hanswer, hnil⟩

/-! ## The same shape -/

/-- The comparison with the attempt before has files, but nothing of them for the model. -/
def Unreadable (gh : GitHub) (collation : Collation) (ref : CommitRef) (budget : Nat) : Prop :=
  ∃ previous comparison, nonEmpty ref.previousSha = some previous ∧
    gh.compareCommits ref.installationId ref.repoRef previous ref.sha = .ok (some comparison) ∧
    comparison.files ≠ [] ∧ ¬Offers gh collation ref budget comparison

/-- Both fall back to the same shape. -/
theorem withoutDiff_kind {ref : CommitRef} {budget : Nat} {base : CommitBase} {r : ReviewSource} {v : CommitView}
    (hr : ReviewSource.withoutDiff gh collation ref budget = .ok (some r))
    (hv : CommitView.withoutDiff gh collation ref base = .ok (some v)) : r.kind = v.kind := by
  obtain ⟨trees, htrees, hfull, htemplate⟩ := review_withoutDiff hr
  obtain ⟨trees', htrees', hfull', htemplate'⟩ := view_withoutDiff hv
  cases htrees.symm.trans htrees'
  cases trees with
  | none => exact (hfull rfl).trans (hfull' rfl).symm
  | some p => exact (htemplate p.1 p.2 rfl).1.trans (htemplate' p.1 p.2 rfl).1.symm

theorem withoutDiff_ne_diff {ref : CommitRef} {budget : Nat} {r : ReviewSource}
    (hr : ReviewSource.withoutDiff gh collation ref budget = .ok (some r)) : r.kind ≠ .diff := by
  obtain ⟨trees, -, hfull, htemplate⟩ := review_withoutDiff hr
  cases trees with
  | none => rw [hfull rfl]; rintro ⟨⟩
  | some p => rw [(htemplate p.1 p.2 rfl).1]; rintro ⟨⟩

/-- Where the kinds agree, and what the instructor sees where they do not. -/
theorem forCommit_kind {ref : CommitRef} {budget : Nat} {r : ReviewSource} {v : CommitView}
    (hr : ReviewSource.forCommit gh collation ref budget = .ok (some r))
    (hv : CommitView.forCommit gh collation ref = .ok (some v)) :
    (r.kind = v.kind ↔ ¬Unreadable gh collation ref budget) ∧
      (Unreadable gh collation ref budget → v.kind = .diff) := by
  have hsame : ∀ {p p' : String} {c c' : CommitComparison}, nonEmpty ref.previousSha = some p →
      nonEmpty ref.previousSha = some p' →
      gh.compareCommits ref.installationId ref.repoRef p ref.sha = .ok (some c) →
      gh.compareCommits ref.installationId ref.repoRef p' ref.sha = .ok (some c') → c = c' :=
    fun hp hp' hc hc' => by
      rw [hp] at hp'
      cases hp'
      rw [hc] at hc'
      cases hc'
      rfl
  rcases review_diff hr with ⟨hrkind, p, c, hp, hc, hoffers⟩ | ⟨hr, hnothing⟩
  · have hread : ¬Unreadable gh collation ref budget := by
      rintro ⟨p', c', hp', hc', -, hnot⟩
      exact hnot (hsame hp hp' hc hc' ▸ hoffers)
    rcases view_diff hv with ⟨hvkind, -⟩ | ⟨-, hnil⟩
    · exact ⟨⟨fun _ => hread, fun _ => hrkind.trans hvkind.symm⟩, fun h => absurd h hread⟩
    · exact absurd hoffers (not_offers_of_nil (hnil p c hp hc))
  · rcases view_diff hv with ⟨hvkind, p, c, hp, hc, hfiles⟩ | ⟨⟨base, hv⟩, hnil⟩
    · have hunread : Unreadable gh collation ref budget := ⟨p, c, hp, hc, hfiles, hnothing p c hp hc⟩
      refine ⟨⟨fun h => ?_, fun h => absurd hunread h⟩, fun _ => hvkind⟩
      exact absurd (h.trans hvkind) (withoutDiff_ne_diff hr)
    · have hread : ¬Unreadable gh collation ref budget := by
        rintro ⟨p, c, hp, hc, hfiles, -⟩
        exact hfiles (hnil p c hp hc)
      exact ⟨⟨fun _ => hread, fun _ => withoutDiff_kind hr hv⟩, fun h => absurd h hread⟩

/-- In kind `template` what the model is given is listed. -/
theorem forCommit_listed {ref : CommitRef} {budget : Nat} {r : ReviewSource} {v : CommitView}
    (hr : ReviewSource.forCommit gh collation ref budget = .ok (some r))
    (hv : CommitView.forCommit gh collation ref = .ok (some v)) (hrkind : r.kind = .template)
    (hvkind : v.kind = .template) (hwhole : v.truncated = false) :
    ∀ f ∈ r.files, ∃ e ∈ v.files, e.path = f.path ∧ (e.status = "added" ∨ e.status = "modified") := by
  rcases review_diff hr with ⟨hdiff, -⟩ | ⟨hr, -⟩
  · rw [hrkind] at hdiff
    cases hdiff
  · rcases view_diff hv with ⟨hdiff, -⟩ | ⟨⟨base, hv⟩, -⟩
    · rw [hvkind] at hdiff
      cases hdiff
    · obtain ⟨trees, htrees, hfull, htemplate⟩ := review_withoutDiff hr
      obtain ⟨trees', htrees', -, htemplate'⟩ := view_withoutDiff hv
      cases htrees.symm.trans htrees'
      intro f hf
      cases trees with
      | none =>
        rw [hfull rfl] at hrkind
        cases hrkind
      | some p =>
        obtain ⟨file, status, hmem, hpath⟩ := (htemplate p.1 p.2 rfl).2 f hf
        rw [mem_studentOwnFiles] at hmem
        obtain ⟨hfile, hkeep, hstatus⟩ := hmem
        have hall := (htemplate' p.1 p.2 rfl).2.resolve_left (by rw [hwhole]; exact Bool.false_ne_true)
        have hlisted := hall file status
          (mem_studentOwnFiles.2 ⟨hfile, isStudentPath_of_isReviewable hkeep, hstatus⟩)
        refine ⟨_, hlisted, hpath, ?_⟩
        cases status with
        | added => exact .inl rfl
        | modified => exact .inr rfl

/-- The reviewer and the instructor are shown the same kind exactly when the comparison with the attempt before
is not one of files that the model can read nothing of; there the instructor still sees the diff. -/
theorem same_shape {rows : Rows} {submissions : Table SubmissionId Submission} {submissionId : SubmissionId}
    {budget : Nat} {r : ReviewSource} {v : CommitView}
    (hr : ReviewSource.forSubmission gh collation rows submissions submissionId budget = .ok (some r))
    (hv : CommitView.forSubmission gh collation rows submissions submissionId = .ok (some v)) :
    ∃ ref, resolveCommitRef rows submissions submissionId = some ref ∧
      (r.kind = v.kind ↔ ¬Unreadable gh collation ref budget) ∧
      (Unreadable gh collation ref budget → v.kind = .diff) ∧
      (r.kind = .template → v.kind = .template → v.truncated = true ∨
        ∀ f ∈ r.files, ∃ e ∈ v.files, e.path = f.path ∧ (e.status = "added" ∨ e.status = "modified")) := by
  unfold ReviewSource.forSubmission at hr
  unfold CommitView.forSubmission at hv
  cases href : resolveCommitRef rows submissions submissionId with
  | none =>
    rw [href] at hr
    cases hr
  | some ref =>
    rw [href] at hr hv
    obtain ⟨hkind, hdiff⟩ := forCommit_kind hr hv
    refine ⟨ref, rfl, hkind, hdiff, fun hrkind hvkind => ?_⟩
    cases hwhole : v.truncated with
    | true => exact .inl rfl
    | false => exact .inr (forCommit_listed hr hv hrkind hvkind hwhole)

namespace Example

/-- Two attempts at one assignment. -/
def attempts : Table SubmissionId Submission :=
  (Table.empty.insert "s1" ⟨"todo", "aisha", 1, some "c1", some "e1"⟩).insert
    "s2" ⟨"todo", "aisha", 2, some "c2", some "e1"⟩

/-- The student edited the page of the starting code; between the attempts a logo was added, which has no patch. -/
def hub : GitHub where
  getCommit := fun _ _ sha => .ok (some ⟨"Work on " ++ sha, none, none⟩)
  compareCommits := fun _ _ _ _ => .ok (some ⟨[⟨"logo.svg", "added", 0, 0, none⟩], false⟩)
  listTree := fun _ ref _ =>
    .ok (some ⟨[⟨"page.tsx", 12, if ref.repo = "fe-starter" then "old" else "new"⟩], false⟩)
  readFile := fun _ _ _ _ => .ok (some "edited page")

def alphabetical : Collation := fun a b => a ≤ b

def shown (kind : Kind) (previous : Option String) : ReviewSource :=
  ⟨kind, [⟨"page.tsx", "edited page"⟩], [], false, previous⟩

def base (sha : String) : CommitBase :=
  ⟨sha, sha, "Work on " ++ sha, none, none, "acme-school/fe-sep26-enr1"⟩

end Example

open Example in
/-- A first attempt: both are shown the edited page. -/
theorem first_attempt_same : ∃ ref, resolveCommitRef reviewed attempts "s1" = some ref ∧
    ¬Unreadable hub alphabetical ref aiTextBudgetBytes := by
  have hr : ReviewSource.forSubmission hub alphabetical reviewed attempts "s1" aiTextBudgetBytes =
      .ok (some (shown .template none)) := by decide +kernel
  have hv : CommitView.forSubmission hub alphabetical reviewed attempts "s1" =
      .ok (some ⟨base "c1", .template, none, none, some "the starting code", 0,
        [⟨"page.tsx", "modified", 0, 0, some 12, none⟩], false⟩) := by decide +kernel
  obtain ⟨ref, href, hkind, -⟩ := same_shape hr hv
  exact ⟨ref, href, hkind.1 rfl⟩

open Example in
/-- A second attempt that adds a logo: the model is given the student's work anew, and the instructor the diff. -/
theorem logo_only_differs : ∃ r v,
    ReviewSource.forSubmission hub alphabetical reviewed attempts "s2" aiTextBudgetBytes = .ok (some r) ∧
    CommitView.forSubmission hub alphabetical reviewed attempts "s2" = .ok (some v) ∧
    r.kind = .template ∧ v.kind = .diff :=
  ⟨shown .template none, ⟨base "c2", .diff,
    some "https://github.com/acme-school/fe-sep26-enr1/compare/c1...c2", some "c1", some "attempt #1", 0,
    [⟨"logo.svg", "added", 0, 0, none, none⟩], false⟩, by decide +kernel, by decide +kernel, rfl, rfl⟩

end Livetich.Workspace
