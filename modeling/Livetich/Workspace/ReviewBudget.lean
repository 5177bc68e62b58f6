/-
How much the reviewer is shown, and what is said of the rest. Files are tested against the budget before
they are charged, so they stay within it; the patches of a comparison are charged and never cut, and the
texts of an archive are charged after they are taken. What is left out of the files is always reported:
by the loop, or because GitHub cut its own listing.
-/
import Livetich.Coding.Archive
import Livetich.Workspace.CommitView

namespace Livetich.Workspace

open Livetich.Lib
open Livetich.Code (jsLength)

/-! ## Reading within a budget -/

def SourceFile.length (file : SourceFile) : Nat := jsLength file.content.toList

def Patch.length (patch : Patch) : Nat := jsLength patch.patch.toList

/-- The length of a source's patches and file contents. -/
def ReviewSource.textLength (source : ReviewSource) : Nat :=
  cost Patch.length source.patches + cost SourceFile.length source.files

/-- The files that can be read, in order and in full. -/
def readables (read : String → Except String (Option String)) (paths : List String) : List SourceFile :=
  paths.filterMap fun path => ((read path).toOption.bind id).map fun content => ⟨path, content⟩

theorem readables_cons_none {read : String → Except String (Option String)} {path : String} {rest : List String}
    (h : read path = .ok none) : readables read (path :: rest) = readables read rest := by
  unfold readables
  rw [List.filterMap_cons, h]
  rfl

theorem readables_cons_some {read : String → Except String (Option String)} {path content : String}
    {rest : List String} (h : read path = .ok (some content)) :
    readables read (path :: rest) = ⟨path, content⟩ :: readables read rest := by
  unfold readables
  rw [List.filterMap_cons, h]
  rfl

/-- The files of a path list are listed in its order. -/
theorem readables_paths (read : String → Except String (Option String)) :
    ∀ paths : List String, List.Sublist ((readables read paths).map (·.path)) paths
  | [] => List.nil_sublist _
  | path :: rest => by
    have ih := readables_paths read rest
    unfold readables at ih ⊢
    rw [List.filterMap_cons]
    cases (read path).toOption.bind id with
    | none => exact ih.cons _
    | some content => exact ih.cons_cons _

/-- What reading in order yields. -/
structure Fetched (read : String → Except String (Option String)) (budget : Nat) (paths : List String) (used : Nat)
    (files : List SourceFile) (truncated : Bool) : Prop where
  whole : files <+: readables read paths
  all : truncated = false → files = readables read paths
  within : used ≤ budget → used + cost SourceFile.length files ≤ budget

theorem fetchWithin_ok {read : String → Except String (Option String)} {budget : Nat} :
    ∀ {paths : List String} {used : Nat} {files : List SourceFile} {truncated : Bool},
      fetchWithin read budget paths used = .ok (files, truncated) → Fetched read budget paths used files truncated
  | [], used, files, truncated, h => by
    cases h
    exact ⟨List.nil_prefix, fun _ => rfl, fun h => by simpa using h⟩
  | path :: rest, used, files, truncated, h => by
    unfold fetchWithin at h
    split at h
    · cases h
      exact ⟨List.nil_prefix, fun h => (by cases h), fun h => by simpa using h⟩
    · obtain ⟨text, hread, h⟩ := bind_ok_iff.1 h
      cases text with
      | none =>
        obtain ⟨hwhole, hall, hwithin⟩ := fetchWithin_ok h
        rw [← readables_cons_none hread] at hwhole hall
        exact ⟨hwhole, hall, hwithin⟩
      | some content =>
        simp only at h
        split at h
        · cases h
          exact ⟨List.nil_prefix, fun h => (by cases h), fun h => by simpa using h⟩
        · rename_i hfits
          obtain ⟨⟨tail, cut⟩, hrest, h⟩ := bind_ok_iff.1 h
          cases h
          obtain ⟨hwhole, hall, hwithin⟩ := fetchWithin_ok hrest
          refine ⟨?_, ?_, ?_⟩
          · rw [readables_cons_some hread]
            exact List.cons_prefix_cons.2 ⟨rfl, hwhole⟩
          · intro hcut
            rw [readables_cons_some hread]
            exact congrArg _ (hall hcut)
          · intro _
            have := hwithin (by omega)
            show used + cost SourceFile.length (⟨path, content⟩ :: tail) ≤ budget
            rw [cost_cons]
            show used + (jsLength content.toList + cost SourceFile.length tail) ≤ budget
            omega

/-- Reading in order goes through and yields nothing. -/
def Barren (read : String → Except String (Option String)) (budget : Nat) : List String → Prop
  | [] => True
  | path :: rest => budget = 0 ∨ (read path = .ok none ∧ Barren read budget rest) ∨
    ∃ text, read path = .ok (some text) ∧ budget < jsLength text.toList

theorem fetchWithin_nil_iff {read : String → Except String (Option String)} {budget : Nat} :
    ∀ {paths : List String}, (∃ cut, fetchWithin read budget paths 0 = .ok ([], cut)) ↔ Barren read budget paths
  | [] => ⟨fun _ => trivial, fun _ => ⟨false, rfl⟩⟩
  | path :: rest => by
    unfold fetchWithin Barren
    by_cases hbudget : 0 ≥ budget
    · rw [if_pos hbudget]
      exact ⟨fun _ => .inl (by omega), fun _ => ⟨true, rfl⟩⟩
    · rw [if_neg hbudget]
      have hpos : budget ≠ 0 := by omega
      cases hread : read path with
      | error e =>
        constructor
        · rintro ⟨cut, ⟨⟩⟩
        · rintro (h | ⟨⟨⟩, -⟩ | ⟨text, ⟨⟩, -⟩)
          exact absurd h hpos
      | ok text =>
        cases text with
        | none =>
          have ih := @fetchWithin_nil_iff read budget rest
          show (∃ cut, fetchWithin read budget rest 0 = .ok ([], cut)) ↔ _
          rw [ih]
          constructor
          · intro h
            exact .inr (.inl ⟨rfl, h⟩)
          · rintro (h | ⟨-, h⟩ | ⟨text, ⟨⟩, -⟩)
            · exact absurd h hpos
            · exact h
        | some content =>
          simp only [ok_bind, Nat.zero_add]
          split
          · rename_i hlong
            exact ⟨fun _ => .inr (.inr ⟨content, rfl, hlong⟩), fun _ => ⟨true, rfl⟩⟩
          · rename_i hfits
            constructor
            · rintro ⟨cut, h⟩
              obtain ⟨tail, -, h⟩ := bind_ok_iff.1 h
              cases h
            · rintro (h | ⟨⟨⟩, -⟩ | ⟨text, heq, h⟩)
              · exact absurd h hpos
              · cases heq
                exact absurd h hfits

/-! ## The order of the files -/

/-- The order of a collation, which puts any two names in an order. -/
structure IsCollation (collation : Collation) : Prop where
  total : ∀ a b, collation a b = true ∨ collation b a = true
  trans : ∀ a b c, collation a b = true → collation b c = true → collation a c = true

theorem reviewOrder_iff {collation : Collation} {a b : String} : reviewOrder collation a b = true ↔
    score a < score b ∨ (score a = score b ∧ ((a.toList.splitOn '/').length < (b.toList.splitOn '/').length ∨
      ((a.toList.splitOn '/').length = (b.toList.splitOn '/').length ∧ collation a b = true))) := by
  unfold reviewOrder
  by_cases hscore : score a = score b
  · by_cases hdepth : (a.toList.splitOn '/').length = (b.toList.splitOn '/').length
    · simp [hscore, hdepth]
    · simp [hscore, hdepth]
  · simp [hscore]

theorem IsCollation.reviewOrder_total {collation : Collation} (h : IsCollation collation) (a b : String) :
    (reviewOrder collation a b || reviewOrder collation b a) = true := by
  rw [Bool.or_eq_true, reviewOrder_iff, reviewOrder_iff]
  have := h.total a b
  grind

theorem IsCollation.reviewOrder_trans {collation : Collation} (h : IsCollation collation) (a b c : String)
    (hab : reviewOrder collation a b = true) (hbc : reviewOrder collation b c = true) :
    reviewOrder collation a c = true := by
  rw [reviewOrder_iff] at hab hbc ⊢
  have := h.trans a b c
  grind

/-- The files that can be read of a sorted list are in review order. -/
theorem pairwise_readables {collation : Collation} (h : IsCollation collation)
    (read : String → Except String (Option String)) {files : List SourceFile} {candidates : List String}
    (hfiles : files <+: readables read (candidates.mergeSort (reviewOrder collation))) :
    (files.map (·.path)).Pairwise fun a b => reviewOrder collation a b = true := by
  have hsorted := List.pairwise_mergeSort h.reviewOrder_trans h.reviewOrder_total candidates
  refine (hsorted.sublist (readables_paths read _)).sublist ?_
  exact (hfiles.map _).sublist

/-! ## The three shapes -/

section Shapes

variable (gh : GitHub) (collation : Collation)

/-- The files of the student's own that are worth reading, in review order. -/
def ownReviewable (student template : Tree) : List String :=
  (((studentOwnFiles student.files template.files fun f => isReviewable f.path f.size).1).map (·.1.path)).mergeSort
    (reviewOrder collation)

/-- The files of a repository that are worth reading, in review order. -/
def allReviewable (tree : Tree) : List String :=
  ((tree.files.filter fun f => isReviewable f.path f.size).map (·.path)).mergeSort (reviewOrder collation)

/-- There is no comparison with the attempt before, or one that there is nothing to see of. -/
def NoDiff (ref : CommitRef) (budget : Nat) : Prop :=
  ∀ base, nonEmpty ref.previousSha = some base →
    gh.compareCommits ref.installationId ref.repoRef base ref.sha = .ok none ∨
    ∃ comparison, gh.compareCommits ref.installationId ref.repoRef base ref.sha = .ok (some comparison) ∧
      patchesOf comparison = [] ∧ Barren (ref.read gh) budget (readable collation comparison)

/-- The starting code of a submission is listed, or not. -/
def StartsFrom (ref : CommitRef) (answer : Option Tree → Prop) : Prop :=
  ∀ templateRepo, ref.templateRepo = some templateRepo →
    ∃ template, gh.listTree ref.installationId (ref.templateRef templateRepo) ref.templateBranch = .ok template ∧
      answer template

/-- What is shown of a commit, with what was listed and read for it. -/
inductive Shape (ref : CommitRef) (budget : Nat) : Option ReviewSource → Prop
  | diff {base : String} {comparison : CommitComparison} {files : List SourceFile} {cut : Bool} :
    nonEmpty ref.previousSha = some base →
    gh.compareCommits ref.installationId ref.repoRef base ref.sha = .ok (some comparison) →
    fetchWithin (ref.read gh) (remaining comparison budget) (readable collation comparison) 0 = .ok (files, cut) →
    files ≠ [] ∨ patchesOf comparison ≠ [] →
    Shape ref budget (some ⟨.diff, files, patchesOf comparison, cut || comparison.truncated, some base⟩)
  | template {templateRepo : String} {student template : Tree} {files : List SourceFile} {cut : Bool} :
    NoDiff gh collation ref budget →
    ref.templateRepo = some templateRepo →
    gh.listTree ref.installationId ref.repoRef ref.sha = .ok (some student) →
    gh.listTree ref.installationId (ref.templateRef templateRepo) ref.templateBranch = .ok (some template) →
    fetchWithin (ref.read gh) budget (ownReviewable collation student template) 0 = .ok (files, cut) →
    Shape ref budget (some ⟨.template, files, [], cut || student.truncated || template.truncated, none⟩)
  | full {tree : Tree} {files : List SourceFile} {cut : Bool} :
    NoDiff gh collation ref budget →
    StartsFrom gh ref (· = none) →
    gh.listTree ref.installationId ref.repoRef ref.sha = .ok (some tree) →
    fetchWithin (ref.read gh) budget (allReviewable collation tree) 0 = .ok (files, cut) →
    Shape ref budget (some ⟨.full, files, [], cut || tree.truncated, none⟩)
  | unlisted :
    NoDiff gh collation ref budget →
    StartsFrom gh ref (fun _ => True) →
    gh.listTree ref.installationId ref.repoRef ref.sha = .ok none →
    Shape ref budget none

variable {gh collation}

theorem remaining_eq (comparison : CommitComparison) (budget : Nat) :
    remaining comparison budget = budget - cost Patch.length (patchesOf comparison) := rfl

theorem hasContent_iff {source : ReviewSource} :
    ReviewSource.hasContent source = true ↔ source.files ≠ [] ∨ source.patches ≠ [] := by
  simp [ReviewSource.hasContent]

theorem NoDiff.noPatches {ref : CommitRef} {budget : Nat} (h : NoDiff gh collation ref budget) {base : String}
    {comparison : CommitComparison} (hbase : nonEmpty ref.previousSha = some base)
    (hcompare : gh.compareCommits ref.installationId ref.repoRef base ref.sha = .ok (some comparison)) :
    patchesOf comparison = [] := by
  rcases h base hbase with hnone | ⟨other, hother, hpatches, -⟩
  · rw [hcompare] at hnone
    cases hnone
  · rw [hcompare] at hother
    cases hother
    exact hpatches

theorem withoutDiff_shape {ref : CommitRef} {budget : Nat} {source : Option ReviewSource}
    (hnone : NoDiff gh collation ref budget)
    (h : ReviewSource.withoutDiff gh collation ref budget = .ok source) : Shape gh collation ref budget source := by
  have hfull : ∀ answer, StartsFrom gh ref answer →
      (∀ tree, gh.listTree ref.installationId ref.repoRef ref.sha = .ok (some tree) → StartsFrom gh ref (· = none)) →
      ReviewSource.readFull gh collation ref budget = .ok source → Shape gh collation ref budget source := by
    intro answer hstart hlisted h
    obtain ⟨tree, htree, h⟩ := bind_ok_iff.1 h
    cases tree with
    | none =>
      cases h
      exact .unlisted hnone (fun t ht => (hstart t ht).imp fun _ h => ⟨h.1, trivial⟩) htree
    | some tree =>
      obtain ⟨⟨files, cut⟩, hfetched, h⟩ := bind_ok_iff.1 h
      cases h
      exact .full hnone (hlisted tree htree) htree hfetched
  obtain ⟨own, hown, h⟩ := bind_ok_iff.1 h
  cases htemplate : ref.templateRepo with
  | none =>
    have hstart : ∀ answer, StartsFrom gh ref answer := fun answer t ht => by
      rw [htemplate] at ht
      cases ht
    rw [htemplate] at hown
    cases hown
    exact hfull (fun _ => True) (hstart _) (fun _ _ => hstart _) h
  | some templateRepo =>
    rw [htemplate] at hown
    obtain ⟨student, hstudent, hown⟩ := bind_ok_iff.1 hown
    obtain ⟨template, hread, hown⟩ := bind_ok_iff.1 hown
    have hstart : ∀ answer : Option Tree → Prop, answer template → StartsFrom gh ref answer := by
      intro answer hanswer t ht
      rw [htemplate] at ht
      cases ht
      exact ⟨template, hread, hanswer⟩
    cases student with
    | none =>
      cases hown
      refine hfull (fun _ => True) (hstart _ trivial) (fun tree htree => ?_) h
      rw [hstudent] at htree
      cases htree
    | some student =>
      cases template with
      | none =>
        cases hown
        exact hfull (fun _ => True) (hstart _ trivial) (fun _ _ => hstart _ rfl) h
      | some template =>
        obtain ⟨⟨files, cut⟩, hfetched, hown⟩ := bind_ok_iff.1 hown
        cases hown
        cases h
        exact .template hnone htemplate hstudent hread hfetched

theorem forCommit_shape {ref : CommitRef} {budget : Nat} {source : Option ReviewSource}
    (h : ReviewSource.forCommit gh collation ref budget = .ok source) : Shape gh collation ref budget source := by
  obtain ⟨diff, hdiff, h⟩ := bind_ok_iff.1 h
  cases hprevious : nonEmpty ref.previousSha with
  | none =>
    rw [hprevious] at hdiff
    cases hdiff
    exact withoutDiff_shape (fun base hbase => by rw [hprevious] at hbase; cases hbase) h
  | some base =>
    rw [hprevious] at hdiff
    obtain ⟨answer, hanswer, hdiff⟩ := bind_ok_iff.1 hdiff
    cases answer with
    | none =>
      cases hdiff
      refine withoutDiff_shape (fun base' hbase => ?_) h
      rw [hprevious] at hbase
      cases hbase
      exact .inl hanswer
    | some comparison =>
      obtain ⟨⟨files, cut⟩, hfetched, hdiff⟩ := bind_ok_iff.1 hdiff
      cases hdiff
      by_cases hcontent : files ≠ [] ∨ patchesOf comparison ≠ []
      · rw [Option.filter_some, if_pos (hasContent_iff.2 hcontent)] at h
        cases h
        exact .diff hprevious hanswer hfetched hcontent
      · rw [Option.filter_some, if_neg (mt hasContent_iff.1 hcontent)] at h
        simp only [not_or, ne_eq, not_not] at hcontent
        refine withoutDiff_shape (fun base' hbase => ?_) h
        rw [hprevious] at hbase
        cases hbase
        refine .inr ⟨comparison, hanswer, hcontent.2, fetchWithin_nil_iff.1 ⟨cut, ?_⟩⟩
        rw [remaining_eq, hcontent.1, hcontent.2] at hfetched
        exact hfetched

/-- A diff that has something to show is the answer. -/
theorem forCommit_of_diff {ref : CommitRef} {base : String} {budget : Nat} {diff : ReviewSource}
    (hbase : nonEmpty ref.previousSha = some base)
    (hread : ReviewSource.readDiff gh collation ref base budget = .ok (some diff)) (hcontent : diff.hasContent = true) :
    ReviewSource.forCommit gh collation ref budget = .ok (some diff) := by
  have hfilter : (some diff).filter ReviewSource.hasContent = some diff := by
    rw [Option.filter_some, if_pos hcontent]
  unfold ReviewSource.forCommit
  simp only [hbase, hread, ok_bind, hfilter]
  rfl

/-- A commit is shown in one of the shapes. -/
theorem shape_forCommit {ref : CommitRef} {budget : Nat} {source : Option ReviewSource}
    (h : Shape gh collation ref budget source) : ReviewSource.forCommit gh collation ref budget = .ok source := by
  have hfiltered : NoDiff gh collation ref budget → ReviewSource.forCommit gh collation ref budget =
      ReviewSource.withoutDiff gh collation ref budget := by
    intro hnone
    unfold ReviewSource.forCommit
    cases hprevious : nonEmpty ref.previousSha with
    | none => rfl
    | some base =>
      unfold ReviewSource.readDiff
      rcases hnone base hprevious with hanswer | ⟨comparison, hanswer, hpatches, hbarren⟩
      · simp only [hanswer, ok_bind]
        rfl
      · obtain ⟨cut, hfetched⟩ := fetchWithin_nil_iff.2 hbarren
        have hremaining : remaining comparison budget = budget := by
          rw [remaining_eq, hpatches]
          rfl
        simp only [hanswer, ok_bind, hremaining, hfetched, hpatches]
        rfl
  cases h with
  | @diff base comparison files cut hbase hcompare hfetched hcontent =>
    refine forCommit_of_diff hbase ?_ (hasContent_iff.2 hcontent)
    unfold ReviewSource.readDiff
    simp only [hcompare, hfetched, ok_bind]
    rfl
  | @template templateRepo student template files cut hnone htemplate hstudent hstart hfetched =>
    rw [hfiltered hnone]
    unfold ReviewSource.withoutDiff ReviewSource.readAgainstTemplate
    unfold ownReviewable at hfetched
    simp only [htemplate, hstudent, hstart, hfetched, ok_bind]
    rfl
  | @full tree files cut hnone hstart htree hfetched =>
    rw [hfiltered hnone]
    unfold ReviewSource.withoutDiff ReviewSource.readAgainstTemplate ReviewSource.readFull
    unfold allReviewable at hfetched
    cases htemplate : ref.templateRepo with
    | none =>
      simp only [htree, hfetched, ok_bind]
      rfl
    | some templateRepo =>
      obtain ⟨template, htemplates, rfl⟩ := hstart templateRepo htemplate
      simp only [htree, htemplates, hfetched, ok_bind]
      rfl
  | unlisted hnone hstart htree =>
    rw [hfiltered hnone]
    unfold ReviewSource.withoutDiff ReviewSource.readAgainstTemplate ReviewSource.readFull
    cases htemplate : ref.templateRepo with
    | none =>
      simp only [htree, ok_bind]
      rfl
    | some templateRepo =>
      obtain ⟨template, htemplates, -⟩ := hstart templateRepo htemplate
      simp only [htree, htemplates, ok_bind]
      rfl

theorem forSubmission_shape {rows : Rows} {submissions : Table SubmissionId Submission} {submissionId : SubmissionId}
    {budget : Nat} {source : ReviewSource}
    (h : ReviewSource.forSubmission gh collation rows submissions submissionId budget = .ok (some source)) :
    ∃ ref, resolveCommitRef rows submissions submissionId = some ref ∧
      Shape gh collation ref budget (some source) := by
  unfold ReviewSource.forSubmission at h
  cases hresolve : resolveCommitRef rows submissions submissionId with
  | none =>
    rw [hresolve] at h
    cases h
  | some ref =>
    rw [hresolve] at h
    exact ⟨ref, rfl, forCommit_shape h⟩

end Shapes

/-! ## The length of what is sent -/

section Length

variable {gh : GitHub} {collation : Collation}

/-- The patches since the attempt before, if there are any, fit into the budget. -/
def PatchesFit (gh : GitHub) (ref : CommitRef) (budget : Nat) : Prop :=
  ∀ base comparison, nonEmpty ref.previousSha = some base →
    gh.compareCommits ref.installationId ref.repoRef base ref.sha = .ok (some comparison) →
      cost Patch.length (patchesOf comparison) ≤ budget

/-- The source is within the budget exactly when the patches are. -/
theorem Shape.textLength_le {ref : CommitRef} {budget : Nat} {source : ReviewSource}
    (h : Shape gh collation ref budget (some source)) : source.textLength ≤ budget ↔ PatchesFit gh ref budget := by
  have hother : ∀ {paths files cut}, fetchWithin (ref.read gh) budget paths 0 = .ok (files, cut) →
      NoDiff gh collation ref budget →
      (cost Patch.length [] + cost SourceFile.length files ≤ budget ↔ PatchesFit gh ref budget) := by
    intro paths files cut hfetched hnone
    have hwithin := (fetchWithin_ok hfetched).within (Nat.zero_le _)
    refine ⟨fun _ base comparison hbase hcompare => ?_, fun _ => by simpa using hwithin⟩
    rw [hnone.noPatches hbase hcompare]
    exact Nat.zero_le _
  cases h with
  | template hnone _ _ _ hfetched => exact hother hfetched hnone
  | full hnone _ _ hfetched => exact hother hfetched hnone
  | @diff base comparison files cut hbase hcompare hfetched =>
    have hwithin := (fetchWithin_ok hfetched).within (Nat.zero_le _)
    rw [remaining_eq] at hwithin
    show cost Patch.length (patchesOf comparison) + cost SourceFile.length files ≤ budget ↔ _
    constructor
    · intro hlength base' other hbase' hcompare'
      rw [hbase] at hbase'
      cases hbase'
      rw [hcompare] at hcompare'
      cases hcompare'
      omega
    · intro hfit
      have := hfit base comparison hbase hcompare
      omega

/-- A review is sent no more than its budget exactly when the patches since the attempt before are within
it; the texts of an archive, when all of them are or the first few come to it exactly. -/
theorem review_text_within {rows : Rows} {submissions : Table SubmissionId Submission} {submissionId : SubmissionId}
    {Buffer : Type} {adm : Buffer → Option (List Coding.ZipEntry)} {budget : Nat} :
    (∀ source, ReviewSource.forSubmission gh collation rows submissions submissionId budget = .ok (some source) →
      (source.textLength ≤ budget ↔
        ∀ ref, resolveCommitRef rows submissions submissionId = some ref → PatchesFit gh ref budget)) ∧
    ∀ buffer entries out, adm buffer = some entries →
      Coding.readTextFiles adm buffer (some budget) = .ok out →
      (cost Coding.ArchiveTextFile.bytes out ≤ budget ↔
        cost Coding.ZipEntry.bytes (Coding.readable entries) ≤ budget ∨
          ∃ first, first <+: Coding.readable entries ∧ cost Coding.ZipEntry.bytes first = budget) := by
  refine ⟨fun source h => ?_, fun buffer entries out hzip h => Coding.readTextFiles_within adm hzip h⟩
  obtain ⟨ref, href, hshape⟩ := forSubmission_shape h
  rw [hshape.textLength_le, href]
  constructor
  · rintro hfit _ ⟨⟩
    exact hfit
  · intro hfit
    exact hfit ref rfl

end Length

namespace Example

/-- The second attempt changed a table of data, with this patch. -/
def patched (patch : String) : GitHub where
  getCommit := fun _ _ sha => .ok (some ⟨"Work on " ++ sha, none, none⟩)
  compareCommits := fun _ _ _ _ => .ok (some ⟨[⟨"data.csv", "modified", 1, 0, some patch⟩], false⟩)
  listTree := fun _ _ _ => .ok none
  readFile := fun _ _ _ _ => .ok none

def second : CommitRef where
  installationId := "77"
  owner := "acme-school"
  repo := "fe-sep26-enr1"
  fullName := "acme-school/fe-sep26-enr1"
  sha := "c2"
  previousSha := some "c1"
  attemptNumber := 2
  orgLogin := "acme-school"
  templateRepo := some "fe-starter"
  templateBranch := "main"

theorem resolve_second : resolveCommitRef reviewed attempts "s2" = some second := by decide

theorem forSubmission_patched {patch : String} (h : patch ≠ "") (budget : Nat) :
    ReviewSource.forSubmission (patched patch) alphabetical reviewed attempts "s2" budget =
      .ok (some ⟨.diff, [], [⟨"data.csv", "modified", patch⟩], false, some "c1"⟩) := by
  have hpatches : patchesOf ⟨[⟨"data.csv", "modified", 1, 0, some patch⟩], false⟩ =
      [⟨"data.csv", "modified", patch⟩] := by
    simp [patchesOf, nonEmpty, h]
  have hcsv : isReviewable "data.csv" 0 = false := by decide
  have hreadable : readable alphabetical ⟨[⟨"data.csv", "modified", 1, 0, some patch⟩], false⟩ = [] := by
    simp [readable, hcsv]
  unfold ReviewSource.forSubmission
  rw [resolve_second]
  show ReviewSource.forCommit (patched patch) alphabetical second budget = _
  have hdiff : ReviewSource.readDiff (patched patch) alphabetical second "c1" budget =
      .ok (some ⟨.diff, [], [⟨"data.csv", "modified", patch⟩], false, some "c1"⟩) := by
    unfold ReviewSource.readDiff
    show (do
      let fetched ← fetchWithin _ _ (readable alphabetical ⟨[⟨"data.csv", "modified", 1, 0, some patch⟩], false⟩) 0
      return some _) = _
    rw [hreadable, hpatches]
    rfl
  exact forCommit_of_diff (by decide) hdiff rfl

/-- More text than one review is to be sent. -/
def long : String := String.ofList (List.replicate (aiTextBudgetBytes + 1) 'x')

theorem jsLength_long : jsLength long.toList = aiTextBudgetBytes + 1 := by
  unfold long jsLength
  rw [String.toList_ofList, List.map_replicate, List.sum_replicate_nat]
  rfl

theorem patched_long {patch : String} {budget : Nat} (h : budget < jsLength patch.toList) :
    ∃ source, ReviewSource.forSubmission (patched patch) alphabetical reviewed attempts "s2" budget =
      .ok (some source) ∧ budget < source.textLength := by
  refine ⟨_, forSubmission_patched ?_ budget, ?_⟩
  · rintro rfl
    exact absurd h (by simp [jsLength])
  · simpa [ReviewSource.textLength, Patch.length] using h

/-- An archive of two files, read with three bytes to spend. -/
def zip : List Coding.ZipEntry := [⟨false, "src/main.ts", 1, .ok "x"⟩, ⟨false, "src/app.ts", 11, .ok "const a = 1"⟩]

end Example

open Example in
/-- A patch that is longer than the budget is sent whole, and so is the file that an archive's budget ends in. -/
theorem long_patch_sent :
    (∃ source, ReviewSource.forSubmission (patched long) alphabetical reviewed attempts "s2" aiTextBudgetBytes =
      .ok (some source) ∧ aiTextBudgetBytes < source.textLength) ∧
    ∃ out, Coding.readTextFiles (fun _ : Unit => some zip) () (some 3) = .ok out ∧
      3 < cost Coding.ArchiveTextFile.bytes out := by
  refine ⟨patched_long ?_, ⟨[⟨"src/main.ts", "x", some "typescript"⟩,
    ⟨"src/app.ts", "const a = 1", some "typescript"⟩], by decide, by decide⟩⟩
  rw [jsLength_long]
  exact Nat.lt_succ_self _

open Example in
/-- A patch of one line fits, and so does the archive with twelve bytes to spend. -/
theorem short_patch_within :
    (ReviewSource.textLength ⟨.diff, [], [⟨"data.csv", "modified", "+1"⟩], false, some "c1"⟩ ≤ 12 ↔
      ∀ ref, resolveCommitRef reviewed attempts "s2" = some ref → PatchesFit (patched "+1") ref 12) ∧
    ∃ out, Coding.readTextFiles (fun _ : Unit => some zip) () (some 12) = .ok out ∧
      cost Coding.ArchiveTextFile.bytes out ≤ 12 := by
  obtain ⟨hsource, harchive⟩ := @review_text_within (patched "+1") alphabetical reviewed attempts "s2" Unit
    (fun _ => some zip) 12
  have hout : Coding.readTextFiles (fun _ : Unit => some zip) () (some 12) =
      .ok [⟨"src/main.ts", "x", some "typescript"⟩, ⟨"src/app.ts", "const a = 1", some "typescript"⟩] := by
    decide
  exact ⟨hsource _ (forSubmission_patched (by decide) 12), _, hout, (harchive () zip _ rfl hout).2 (.inl (by decide))⟩

/-! ## What GitHub cuts -/

/-- The answer to a request for a comparison. -/
structure CompareBody where
  files : Option (List ComparedFile)

structure TreeItem where
  path : String
  type : String
  size : Option Nat
  sha : Option String

/-- The answer to a request for a tree. -/
structure TreeBody where
  truncated : Option Bool
  tree : Option (List TreeItem)

/-- GitHub's answers as they come: `none` where it has nothing there, and an error where the request fails. -/
structure GitHubApi where
  getCommit : String → RepoRef → String → Except String (Option CommitDetail)
  compare : String → RepoRef → String → String → Except String (Option CompareBody)
  tree : String → RepoRef → String → Except String (Option TreeBody)
  readFile : String → RepoRef → String → String → Except String (Option String)

/-- GitHub lists at most 300 files of a comparison. -/
def CompareBody.comparison (body : CompareBody) : CommitComparison :=
  let files := body.files.getD []
  ⟨files, 300 ≤ files.length⟩

def TreeBody.listing (body : TreeBody) : Tree where
  files := ((body.tree.getD []).filter (·.type == "blob")).map fun t => ⟨t.path, t.size.getD 0, t.sha.getD ""⟩
  truncated := body.truncated.getD false

/-- `GitHubApiService`. -/
def GitHubApi.service (api : GitHubApi) : GitHub where
  getCommit := api.getCommit
  compareCommits := fun installationId ref base head =>
    (api.compare installationId ref base head).map (·.map CompareBody.comparison)
  listTree := fun installationId ref sha => (api.tree installationId ref sha).map (·.map TreeBody.listing)
  readFile := api.readFile

/-- All that GitHub has to list. -/
structure Holdings where
  changed : RepoRef → String → String → List ComparedFile
  tree : RepoRef → String → List TreeItem

/-- How GitHub cuts its listings: a comparison after 300 files, and a tree with a mark. -/
structure Documented (api : GitHubApi) (holds : Holdings) : Prop where
  compare : ∀ installationId ref base head body, api.compare installationId ref base head = .ok (some body) →
    body.files.getD [] = (holds.changed ref base head).take 300
  tree : ∀ installationId ref sha body, api.tree installationId ref sha = .ok (some body) →
    body.truncated.getD false = false → body.tree.getD [] = holds.tree ref sha

/-- The files to read for a source of each kind, in order, and whether GitHub listed all it has. -/
inductive Listing (api : GitHubApi) (holds : Holdings) (collation : Collation) (ref : CommitRef) :
    Kind → List String → Prop → Prop
  | diff {base : String} {body : CompareBody} :
    nonEmpty ref.previousSha = some base →
    api.compare ref.installationId ref.repoRef base ref.sha = .ok (some body) →
    Listing api holds collation ref .diff (readable collation body.comparison)
      (body.files.getD [] = holds.changed ref.repoRef base ref.sha)
  | template {templateRepo : String} {student template : TreeBody} :
    ref.templateRepo = some templateRepo →
    api.tree ref.installationId ref.repoRef ref.sha = .ok (some student) →
    api.tree ref.installationId (ref.templateRef templateRepo) ref.templateBranch = .ok (some template) →
    Listing api holds collation ref .template (ownReviewable collation student.listing template.listing)
      (student.tree.getD [] = holds.tree ref.repoRef ref.sha ∧
        template.tree.getD [] = holds.tree (ref.templateRef templateRepo) ref.templateBranch)
  | full {body : TreeBody} :
    api.tree ref.installationId ref.repoRef ref.sha = .ok (some body) →
    Listing api holds collation ref .full (allReviewable collation body.listing)
      (body.tree.getD [] = holds.tree ref.repoRef ref.sha)

/-- The files of a source are whole, in review order and the first of those that can be read, and where
nothing is said to be missing, all of them. -/
structure Honest (read : String → Except String (Option String)) (collation : Collation) (candidates : List String)
    (uncut : Prop) (source : ReviewSource) : Prop where
  whole : source.files <+: readables read candidates
  ordered : (source.files.map (·.path)).Pairwise fun a b => reviewOrder collation a b = true
  all : source.truncated = false → source.files = readables read candidates ∧ uncut

section Honesty

variable {api : GitHubApi} {holds : Holdings} {collation : Collation}

theorem map_ok_some {α β : Type} {x : Except String (Option α)} {f : α → β} {b : β}
    (h : x.map (·.map f) = .ok (some b)) : ∃ a, x = .ok (some a) ∧ f a = b := by
  cases x with
  | error e => cases h
  | ok a =>
    cases a with
    | none => cases h
    | some a =>
      cases h
      exact ⟨a, rfl, rfl⟩

/-- A comparison of fewer than 300 files is all there is. -/
theorem Documented.uncut_compare (hdoc : Documented api holds) {installationId : String} {ref : RepoRef}
    {base head : String} {body : CompareBody} (h : api.compare installationId ref base head = .ok (some body))
    (htruncated : body.comparison.truncated = false) : body.files.getD [] = holds.changed ref base head := by
  have hfiles := hdoc.compare installationId ref base head body h
  have hshort : ¬ 300 ≤ (body.files.getD []).length := of_decide_eq_false htruncated
  rw [hfiles, List.length_take] at hshort
  rw [hfiles, List.take_of_length_le (by omega)]

theorem Shape.honest (hcollation : IsCollation collation) (hdoc : Documented api holds) {ref : CommitRef}
    {budget : Nat} {source : ReviewSource} (h : Shape api.service collation ref budget (some source)) :
    ∃ candidates uncut, Listing api holds collation ref source.kind candidates uncut ∧
      Honest (ref.read api.service) collation candidates uncut source := by
  cases h with
  | @diff base comparison files cut hbase hcompare hfetched =>
    obtain ⟨body, hbody, rfl⟩ := map_ok_some hcompare
    have hread := fetchWithin_ok hfetched
    refine ⟨_, _, .diff hbase hbody, hread.whole, pairwise_readables hcollation _ hread.whole, fun h => ?_⟩
    obtain ⟨hcut, htruncated⟩ := Bool.or_eq_false_iff.1 h
    exact ⟨hread.all hcut, hdoc.uncut_compare hbody htruncated⟩
  | @template templateRepo student template files cut _ htemplate hstudent hstart hfetched =>
    obtain ⟨student, howned, rfl⟩ := map_ok_some hstudent
    obtain ⟨template, hgiven, rfl⟩ := map_ok_some hstart
    have hread := fetchWithin_ok hfetched
    refine ⟨_, _, .template htemplate howned hgiven, hread.whole, pairwise_readables hcollation _ hread.whole,
      fun h => ?_⟩
    obtain ⟨h, hgiven'⟩ := Bool.or_eq_false_iff.1 h
    obtain ⟨hcut, howned'⟩ := Bool.or_eq_false_iff.1 h
    exact ⟨hread.all hcut, hdoc.tree _ _ _ _ howned howned', hdoc.tree _ _ _ _ hgiven hgiven'⟩
  | @full tree files cut _ _ htree hfetched =>
    obtain ⟨body, hbody, rfl⟩ := map_ok_some htree
    have hread := fetchWithin_ok hfetched
    refine ⟨_, _, .full hbody, hread.whole, pairwise_readables hcollation _ hread.whole, fun h => ?_⟩
    obtain ⟨hcut, htruncated⟩ := Bool.or_eq_false_iff.1 h
    exact ⟨hread.all hcut, hdoc.tree _ _ _ _ hbody htruncated⟩

/-- Truncation is reported honestly, by the loop and for what GitHub cut. -/
theorem forSubmission_honest (hcollation : IsCollation collation) (hdoc : Documented api holds) {rows : Rows}
    {submissions : Table SubmissionId Submission} {submissionId : SubmissionId} {budget : Nat} {source : ReviewSource}
    (h : ReviewSource.forSubmission api.service collation rows submissions submissionId budget = .ok (some source)) :
    ∃ ref candidates uncut, resolveCommitRef rows submissions submissionId = some ref ∧
      Listing api holds collation ref source.kind candidates uncut ∧
      Honest (ref.read api.service) collation candidates uncut source := by
  obtain ⟨ref, href, hshape⟩ := forSubmission_shape h
  obtain ⟨candidates, uncut, hlisting, hhonest⟩ := hshape.honest hcollation hdoc
  exact ⟨ref, candidates, uncut, href, hlisting, hhonest⟩

end Honesty

namespace Example

/-- The second attempt changed the page. -/
def edited : List ComparedFile := [⟨"src/page.tsx", "modified", 1, 0, some "+1"⟩]

def gitHubApi : GitHubApi where
  getCommit := fun _ _ sha => .ok (some ⟨"Work on " ++ sha, none, none⟩)
  compare := fun _ _ _ _ => .ok (some ⟨some edited⟩)
  tree := fun _ _ _ => .ok none
  readFile := fun _ _ _ _ => .ok (some "edited page")

theorem documented_gitHubApi : Documented gitHubApi ⟨fun _ _ _ => edited, fun _ _ => []⟩ := by
  refine ⟨?_, ?_⟩
  · rintro _ _ _ _ _ ⟨⟩
    rfl
  · rintro _ _ _ _ ⟨⟩

theorem isCollation_alphabetical : IsCollation alphabetical where
  total := fun a b => by simpa [alphabetical] using String.le_total a b
  trans := fun a b c => by simpa [alphabetical] using String.le_trans

end Example

open Example in
/-- The page is all there is to read of the second attempt, and nothing is said to be missing. -/
theorem edited_honest : ∃ source ref candidates uncut,
    ReviewSource.forSubmission gitHubApi.service alphabetical reviewed attempts "s2" aiTextBudgetBytes =
      .ok (some source) ∧ source.truncated = false ∧ source.files.map (·.path) = ["src/page.tsx"] ∧
    Listing gitHubApi ⟨fun _ _ _ => edited, fun _ _ => []⟩ alphabetical ref source.kind candidates uncut ∧
    source.files = readables (ref.read gitHubApi.service) candidates ∧ uncut := by
  have hsource : ReviewSource.forSubmission gitHubApi.service alphabetical reviewed attempts "s2" aiTextBudgetBytes =
      .ok (some ⟨.diff, [⟨"src/page.tsx", "edited page"⟩], [⟨"src/page.tsx", "modified", "+1"⟩], false,
        some "c1"⟩) := by
    decide +kernel
  obtain ⟨ref, candidates, uncut, -, hlisting, hhonest⟩ :=
    forSubmission_honest isCollation_alphabetical documented_gitHubApi hsource
  obtain ⟨hall, huncut⟩ := hhonest.all rfl
  exact ⟨_, ref, candidates, uncut, hsource, rfl, rfl, hlisting, hall, huncut⟩

end Livetich.Workspace
