/-
What the AI reviewer is shown of a submission (`ReviewSourceService.forSubmission`): the changes since the
attempt before, the student's own part of a repository that started from a template, or all of it. Files
are read in a fixed order until a budget runs out.
-/
import Livetich.Workspace.CommitRef
import Livetich.Workspace.CourseUpdate

namespace Livetich.Workspace

open Livetich.Lib
open Livetich.Code (jsLength toLowerCase)

/-! ## GitHub -/

structure ComparedFile where
  path : String
  status : String
  additions : Nat
  deletions : Nat
  patch : Option String
  deriving DecidableEq

structure CommitComparison where
  files : List ComparedFile
  truncated : Bool
  deriving DecidableEq

structure CommitDetail where
  message : String
  committedAt : Option String
  htmlUrl : Option String

/-- What GitHub answers, the same to everyone who asks: `none` where it has nothing there, and an error where
the request fails. -/
structure GitHub where
  getCommit : String → RepoRef → String → Except String (Option CommitDetail)
  compareCommits : String → RepoRef → String → String → Except String (Option CommitComparison)
  listTree : String → RepoRef → String → Except String (Option Tree)
  readFile : String → RepoRef → String → String → Except String (Option String)

/-- `a.localeCompare(b) <= 0`: the order of the host's collation. -/
abbrev Collation := String → String → Bool

/-! ## Paths -/

/-- `SKIP_DIRECTORIES`. -/
def skipDirectories : List String :=
  ["node_modules", "dist", "build", "out", ".next", "coverage", "vendor", "__pycache__", ".venv", "venv", ".git"]

/-- `SKIP_EXTENSIONS`. -/
def skipExtensions : List String := [".lock", ".map", ".min.js", ".min.css", ".snap", ".svg", ".csv"]

/-- `SKIP_FILENAMES`. -/
def skipFilenames : List String :=
  ["package-lock.json", "pnpm-lock.yaml", "npm-shrinkwrap.json", "yarn.lock", "bun.lockb", "composer.lock",
    "gemfile.lock", "poetry.lock", "pipfile.lock", "cargo.lock", "go.sum"]

/-- `MAX_FILE_BYTES`. -/
def maxFileBytes : Nat := 64 * 1024

/-- Dependencies and build output are nobody's coursework. -/
def isStudentPath (path : String) : Bool :=
  !(path.toList.splitOn '/').any fun segment => skipDirectories.any (·.toList == segment)

def isReviewable (path : String) (size : Nat) : Bool :=
  if size > maxFileBytes then false
  else if !isStudentPath path then false
  else
    let name := toLowerCase ((path.toList.splitOn '/').getLastD [])
    if skipFilenames.any (·.toList == name) then false
    else if skipExtensions.any (·.toList.isSuffixOf name) then false
    else !(List.isPrefixOf ['.'] name)

theorem isStudentPath_of_isReviewable {path : String} {size : Nat} (h : isReviewable path size = true) :
    isStudentPath path = true := by
  unfold isReviewable at h
  split at h
  · cases h
  · split at h
    · cases h
    · rename_i hpath
      simpa using hpath

def score (path : String) : Nat :=
  if ["src/", "app/", "lib/"].any fun top => top.toList.isPrefixOf path.toList then 0
  else if path.toList.contains '/' then 2
  else 1

/-- `reviewOrder(a, b) <= 0`. -/
def reviewOrder (collation : Collation) (a b : String) : Bool :=
  if score a ≠ score b then score a < score b
  else
    let depth (path : String) := (path.toList.splitOn '/').length
    if depth a ≠ depth b then depth a < depth b
    else collation a b

/-! ## The student's own files -/

inductive OwnStatus
  | added
  | modified
  deriving DecidableEq

/-- A new file, or one with other contents than the starting code has there. -/
def ownStatus (template : List TreeEntry) (file : TreeEntry) : Option OwnStatus :=
  match shaAt template file.path with
  | none => some .added
  | some was => if was ≠ file.sha then some .modified else none

/-- `studentOwnFiles`: the files that pass `keep` and are not the starting code's, and how many are. -/
def studentOwnFiles (student template : List TreeEntry) (keep : TreeEntry → Bool) :
    List (TreeEntry × OwnStatus) × Nat :=
  let kept := student.filter keep
  (kept.filterMap fun file => (ownStatus template file).map (file, ·),
    kept.countP fun file => (ownStatus template file).isNone)

theorem mem_studentOwnFiles {student template : List TreeEntry} {keep : TreeEntry → Bool} {file : TreeEntry}
    {status : OwnStatus} : (file, status) ∈ (studentOwnFiles student template keep).1 ↔
      file ∈ student ∧ keep file = true ∧ ownStatus template file = some status := by
  unfold studentOwnFiles
  simp only [List.mem_filterMap, List.mem_filter, Option.map_eq_some_iff, Prod.mk.injEq]
  constructor
  · rintro ⟨f, ⟨hmem, hkeep⟩, st, hst, rfl, rfl⟩
    exact ⟨hmem, hkeep, hst⟩
  · rintro ⟨hmem, hkeep, hst⟩
    exact ⟨file, ⟨hmem, hkeep⟩, status, hst, rfl, rfl⟩

/-! ## The source -/

inductive Kind
  | full
  | diff
  | template
  deriving DecidableEq

structure SourceFile where
  path : String
  content : String
  deriving DecidableEq

structure Patch where
  path : String
  status : String
  patch : String
  deriving DecidableEq

structure ReviewSource where
  kind : Kind
  files : List SourceFile
  patches : List Patch
  truncated : Bool
  baseSha : Option String
  deriving DecidableEq

/-- `AI_TEXT_BUDGET_BYTES`. -/
def aiTextBudgetBytes : Nat := 220 * 1024

/-- `fetchWithin`: files are read in order until the budget runs out. -/
def fetchWithin (read : String → Except String (Option String)) (budget : Nat) :
    List String → Nat → Except String (List SourceFile × Bool)
  | [], _ => .ok ([], false)
  | path :: rest, used =>
    if used ≥ budget then .ok ([], true)
    else do
      match ← read path with
      | none => fetchWithin read budget rest used
      | some content =>
        if used + jsLength content.toList > budget then return ([], true)
        else
          let fetched ← fetchWithin read budget rest (used + jsLength content.toList)
          return (⟨path, content⟩ :: fetched.1, fetched.2)

/-- The text of the first file that can be read. -/
def firstText (read : String → Except String (Option String)) (paths : List String) : Option String :=
  paths.findSome? fun path => (read path).toOption.bind id

theorem fetchWithin_paths {read : String → Except String (Option String)} {budget : Nat} :
    ∀ {paths : List String} {used : Nat} {files : List SourceFile} {truncated : Bool},
      fetchWithin read budget paths used = .ok (files, truncated) → ∀ f ∈ files, f.path ∈ paths
  | [], used, files, truncated, h => by
    cases h
    exact fun f hf => absurd hf List.not_mem_nil
  | path :: rest, used, files, truncated, h => by
    unfold fetchWithin at h
    split at h
    · cases h
      exact fun f hf => absurd hf List.not_mem_nil
    · obtain ⟨text, -, h⟩ := bind_ok_iff.1 h
      cases text with
      | none => exact fun f hf => List.mem_cons_of_mem _ (fetchWithin_paths h f hf)
      | some content =>
        simp only at h
        split at h
        · cases h
          exact fun f hf => absurd hf List.not_mem_nil
        · obtain ⟨⟨tail, tr⟩, hrest, h⟩ := bind_ok_iff.1 h
          cases h
          intro f hf
          rcases List.mem_cons.1 hf with rfl | hf
          · exact List.mem_cons_self
          · exact List.mem_cons_of_mem _ (fetchWithin_paths hrest f hf)

/-- Something is fetched when the first text there is fits into the budget. -/
theorem fetchWithin_isEmpty {read : String → Except String (Option String)} {budget : Nat} :
    ∀ {paths : List String} {files : List SourceFile} {truncated : Bool},
      fetchWithin read budget paths 0 = .ok (files, truncated) →
        ((!files.isEmpty) = true ↔
          0 < budget ∧ ∃ text, firstText read paths = some text ∧ jsLength text.toList ≤ budget)
  | [], files, truncated, h => by
    cases h
    refine ⟨fun h => (by cases h), ?_⟩
    rintro ⟨-, text, htext, -⟩
    cases htext
  | path :: rest, files, truncated, h => by
    unfold fetchWithin at h
    unfold firstText
    split at h
    · rename_i hbudget
      cases h
      refine ⟨fun h => (by cases h), ?_⟩
      rintro ⟨hpos, -⟩
      omega
    · rename_i hbudget
      obtain ⟨text, hread, h⟩ := bind_ok_iff.1 h
      rw [List.findSome?_cons, hread]
      cases text with
      | none => exact fetchWithin_isEmpty h
      | some content =>
        simp only [Nat.zero_add] at h
        show _ ↔ _ ∧ ∃ text, some content = some text ∧ _
        split at h
        · rename_i hlong
          cases h
          refine ⟨fun h => (by cases h), ?_⟩
          rintro ⟨-, text, htext, hfits⟩
          cases htext
          omega
        · rename_i hfits
          obtain ⟨⟨tail, tr⟩, -, h⟩ := bind_ok_iff.1 h
          cases h
          exact ⟨fun _ => ⟨by omega, content, rfl, by omega⟩, fun _ => rfl⟩

def patchesOf (comparison : CommitComparison) : List Patch :=
  comparison.files.filterMap fun f => (nonEmpty f.patch).map fun patch => ⟨f.path, f.status, patch⟩

/-- The changed files that are worth reading, in review order. -/
def readable (collation : Collation) (comparison : CommitComparison) : List String :=
  ((comparison.files.filter fun f => f.status ≠ "removed" ∧ isReviewable f.path 0).map (·.path)).mergeSort
    (reviewOrder collation)

/-- What is left of the budget after the patches. -/
def remaining (comparison : CommitComparison) (budget : Nat) : Nat :=
  budget - ((patchesOf comparison).map fun p => jsLength p.patch.toList).sum

def CommitRef.repoRef (ref : CommitRef) : RepoRef := ⟨ref.owner, ref.repo⟩

def CommitRef.templateRef (ref : CommitRef) (template : String) : RepoRef := ⟨ref.orgLogin, template⟩

variable (gh : GitHub) (collation : Collation)

/-- The files of the submission at its commit. -/
def CommitRef.read (ref : CommitRef) : String → Except String (Option String) :=
  gh.readFile ref.installationId ref.repoRef ref.sha

namespace ReviewSource

def readDiff (ref : CommitRef) (base : String) (budget : Nat) : Except String (Option ReviewSource) := do
  match ← gh.compareCommits ref.installationId ref.repoRef base ref.sha with
  | none => return none
  | some comparison =>
    let fetched ← fetchWithin (ref.read gh) (remaining comparison budget) (readable collation comparison) 0
    return some ⟨.diff, fetched.1, patchesOf comparison, fetched.2 || comparison.truncated, some base⟩

def readAgainstTemplate (ref : CommitRef) (templateRepo : String) (budget : Nat) :
    Except String (Option ReviewSource) := do
  let student ← gh.listTree ref.installationId ref.repoRef ref.sha
  let template ← gh.listTree ref.installationId (ref.templateRef templateRepo) ref.templateBranch
  match student, template with
  | some student, some template =>
    let own := (studentOwnFiles student.files template.files fun f => isReviewable f.path f.size).1
    let fetched ← fetchWithin (ref.read gh) budget ((own.map (·.1.path)).mergeSort (reviewOrder collation)) 0
    return some ⟨.template, fetched.1, [], fetched.2 || student.truncated || template.truncated, none⟩
  | _, _ => return none

def readFull (ref : CommitRef) (budget : Nat) : Except String (Option ReviewSource) := do
  match ← gh.listTree ref.installationId ref.repoRef ref.sha with
  | none => return none
  | some tree =>
    let candidates := (tree.files.filter fun f => isReviewable f.path f.size).map (·.path)
    let fetched ← fetchWithin (ref.read gh) budget (candidates.mergeSort (reviewOrder collation)) 0
    return some ⟨.full, fetched.1, [], fetched.2 || tree.truncated, none⟩

/-- A diff with nothing in it is no use to the reviewer. -/
def hasContent (source : ReviewSource) : Bool := !source.files.isEmpty || !source.patches.isEmpty

/-- What is shown when there is no diff, or none of use. -/
def withoutDiff (ref : CommitRef) (budget : Nat) : Except String (Option ReviewSource) := do
  let own ← (match ref.templateRepo with
    | none => .ok none
    | some templateRepo => readAgainstTemplate gh collation ref templateRepo budget)
  match own with
  | some own => return some own
  | none => readFull gh collation ref budget

/-- `forSubmission`, once the commit is found. -/
def forCommit (ref : CommitRef) (budget : Nat) : Except String (Option ReviewSource) := do
  let diff ← (match nonEmpty ref.previousSha with
    | none => .ok none
    | some base => readDiff gh collation ref base budget)
  match diff.filter hasContent with
  | some diff => return some diff
  | none => withoutDiff gh collation ref budget

def forSubmission (rows : Rows) (submissions : Table SubmissionId Submission) (submissionId : SubmissionId)
    (budget : Nat) : Except String (Option ReviewSource) :=
  match resolveCommitRef rows submissions submissionId with
  | none => .ok none
  | some ref => forCommit gh collation ref budget

end ReviewSource

end Livetich.Workspace
