/-
The course update (`CodingWorkspaceService.courseUpdate`): the course's current tree, the tree the
student last received and the student's own tree are compared path by path, and the plan says which
of the course's changes can be taken over. Nothing is written here: the editor applies the plan.
-/
import Mathlib.Data.List.Dedup
import Mathlib.Data.List.Lex
import Mathlib.Data.List.Sort
import Mathlib.Logic.Function.Basic
import Livetich.Code.Paths
import Livetich.Workspace.Model

namespace Livetich.Workspace

open Livetich.Lib
open Livetich.Code (forwardSlashes toLowerCase hasDrive templateNames protectedNames protectedPrefixes
  protectedSuffixes)

/-! ## Paths -/

def excludedSegments : List String :=
  [".git", ".aws", ".ssh", ".secrets", ".docker", "secrets", "node_modules", "dist", "build", ".next"]

def isCourseSyncPath (value : String) : Bool :=
  let path := forwardSlashes value.toList
  if path = [] || path.head? = some '/' || hasDrive path ||
      (path.splitOn '/').any fun part => part == [] || part == ['.'] || part == ['.', '.'] then false
  else
    let parts := (toLowerCase path).splitOn '/'
    if parts.any fun part => excludedSegments.any (·.toList == part) then false
    else
      let name := parts.getLastD []
      if templateNames.any (·.toList == name) then true
      else
        !(protectedNames.any (·.toList == name) || protectedPrefixes.any (·.toList.isPrefixOf name) ||
          protectedSuffixes.any (·.toList.isSuffixOf name))

example : isCourseSyncPath "src/main.ts" = true ∧ isCourseSyncPath "Node_Modules/a.js" = false ∧
    isCourseSyncPath "a\\..\\b" = false ∧ isCourseSyncPath "config/.env.sample" = true ∧
    isCourseSyncPath "certs/server.PEM" = false := by decide

/-! ## What GitHub is asked -/

structure RepoRef where
  owner : String
  repo : String
  deriving DecidableEq

structure TreeEntry where
  path : String
  size : Nat
  sha : String
  deriving DecidableEq

structure Tree where
  files : List TreeEntry
  truncated : Bool

structure Blob where
  contentBase64 : String
  size : Nat

structure CommitInfo where
  message : String

/-- The reads of `GitHubApiService`; a request that fails throws. -/
structure GitHubReads where
  getBranchHead : String → RepoRef → String → Result (Option String)
  getCommit : String → RepoRef → String → Result (Option CommitInfo)
  listTree : String → RepoRef → String → Result (Option Tree)
  readBlobBase64 : String → RepoRef → String → Result (Option Blob)

/-! ## The plan -/

inductive Operation
  | write
  | delete
  deriving DecidableEq

inductive Disposition
  | apply
  | conflict
  | alreadyApplied
  | unsupported
  deriving DecidableEq

structure CourseUpdateFile where
  path : String
  operation : Operation
  disposition : Disposition
  contentBase64 : Option String
  size : Option Nat
  deriving DecidableEq

inductive UpdateStatus
  | upToDate
  | updateAvailable
  deriving DecidableEq

structure CourseUpdatePlan where
  status : UpdateStatus
  courseRepository : String
  checkpointTitle : String
  baseSha : Option String
  courseSha : String
  studentSha : String
  files : List CourseUpdateFile
  deriving DecidableEq

def maxUpdateFiles : Nat := 300

def maxUpdateFileBytes : Nat := 5 * 1024 * 1024

def maxUpdateTotalBytes : Nat := 20 * 1024 * 1024

/-- The files of the three trees; the base has none when the revision is unknown. -/
structure UpdateTrees where
  base : List TreeEntry
  course : List TreeEntry
  student : List TreeEntry

/-- `new Map(files.map((file) => [file.path, file])).get(path)`: of two entries the later counts. -/
def fileAt (files : List TreeEntry) (path : String) : Option TreeEntry :=
  files.reverse.find? (·.path == path)

/-- A tree as a finite map from paths to blob hashes. -/
def shaAt (files : List TreeEntry) (path : String) : Option String := (fileAt files path).map (·.sha)

/-- The UTF-16 units of a string, which `sort` compares. -/
def utf16Units (s : String) : List Nat :=
  s.toList.flatMap fun c =>
    if c.toNat < 0x10000 then [c.toNat]
    else [0xD800 + (c.toNat - 0x10000) / 0x400, 0xDC00 + (c.toNat - 0x10000) % 0x400]

def changedPaths (t : UpdateTrees) : List String :=
  let paths := (t.base.map (·.path) ++ t.course.map (·.path)).dedup
  ((paths.filter isCourseSyncPath).filter fun path => shaAt t.base path ≠ shaAt t.course path).insertionSort
    fun a b => utf16Units a ≤ utf16Units b

def dispositionOf (base course student : Option TreeEntry) : Disposition :=
  let alreadyApplied := course.map (·.sha) == student.map (·.sha) || (course.isNone && student.isNone)
  let safeToApply := student.map (·.sha) == base.map (·.sha) || (base.isNone && student.isNone)
  if alreadyApplied then .alreadyApplied else if safeToApply then .apply else .conflict

/-- The entry of a path with the course's file and a disposition, and the bytes counted so far. -/
def planEntry (readBlob : String → Result (Option Blob)) (totalBytes : Nat) (path : String)
    (course : Option TreeEntry) (disposition : Disposition) : Result (Nat × CourseUpdateFile) :=
  let operation := if course.isSome then .write else .delete
  if course.any (maxUpdateFileBytes < ·.size) then
    .ok (totalBytes, ⟨path, operation, .unsupported, none, none⟩)
  else
    let totalBytes := totalBytes + (course.map (·.size)).getD 0
    if maxUpdateTotalBytes < totalBytes then
      .error (.serviceUnavailable "This course update is larger than Livetich can safely transfer.")
    else
      match course with
      | none => .ok (totalBytes, ⟨path, operation, disposition, none, none⟩)
      | some file =>
        if disposition = .alreadyApplied then .ok (totalBytes, ⟨path, operation, disposition, none, some file.size⟩)
        else do
          match ← readBlob file.sha with
          | none => .ok (totalBytes, ⟨path, operation, .unsupported, none, none⟩)
          | some blob =>
            if maxUpdateFileBytes < blob.size then .ok (totalBytes, ⟨path, operation, .unsupported, none, none⟩)
            else .ok (totalBytes, ⟨path, operation, disposition, some blob.contentBase64, some file.size⟩)

/-- One round of the loop over the changed paths. -/
def planFile (readBlob : String → Result (Option Blob)) (t : UpdateTrees) (totalBytes : Nat) (path : String) :
    Result (Nat × CourseUpdateFile) :=
  let base := fileAt t.base path
  let course := fileAt t.course path
  let student := fileAt t.student path
  planEntry readBlob totalBytes path course (dispositionOf base course student)

def planFiles (readBlob : String → Result (Option Blob)) (t : UpdateTrees) :
    Nat → List String → Result (List CourseUpdateFile)
  | _, [] => .ok []
  | totalBytes, path :: paths => do
    let (totalBytes, file) ← planFile readBlob t totalBytes path
    let files ← planFiles readBlob t totalBytes paths
    return file :: files

/-- The message without `/^Livetich: class update\s*-\s*/i`. -/
def withoutPublishMark (message : List Char) : List Char :=
  let mark := "livetich: class update".toList
  if (message.take mark.length).map Char.toLower = mark then
    match (message.drop mark.length).dropWhile Js.isSpace with
    | '-' :: rest => rest.dropWhile Js.isSpace
    | _ => message
  else message

def checkpointTitle (commit : Option CommitInfo) : String :=
  let title := commit.map fun c =>
    Courses.trimString (String.ofList ((withoutPublishMark c.message.toList).takeWhile (· ≠ '\n')))
  (nonEmpty title).getD "Latest class update"

example : checkpointTitle (some ⟨"livetich: Class update -  Week 3\nbody"⟩) = "Week 3" := by decide

/-- The repositories and revisions that are compared. -/
structure UpdateSource where
  installationId : String
  sourceRef : RepoRef
  sourceBranch : String
  studentRef : RepoRef
  studentBranch : String
  baseSha : Option String

/-- The checks on the context, before GitHub is asked. -/
def updateSource (ctx : WorkspaceContext) : Result UpdateSource := do
  let workspace ← orThrow (ctx.workspace.filter (·.status = .active)) (.badRequest "Start your coding workspace first.")
  let fullName ← orThrow (nonEmpty workspace.githubRepositoryFullName)
    (.badRequest "Start your coding workspace first.")
  let template ← orThrow ((nonEmpty ctx.templateRepositoryName).filter fun _ => ctx.connectionActive)
    (.badRequest "Your instructor has not connected a course repository yet.")
  let (owner, studentRepository) ← orThrow (splitFullName fullName)
    (.badRequest "The student repository is not configured correctly.")
  return {
    installationId := ctx.installationId
    sourceRef := ⟨ctx.connectionLogin, template⟩
    sourceBranch := ctx.defaultBranch
    studentRef := ⟨owner, studentRepository⟩
    studentBranch := workspace.defaultBranch
    baseSha := workspace.courseBaseSha }

/-- A tree that was listed in full. -/
def complete (tree : Option Tree) : Result (List TreeEntry) :=
  match tree with
  | some ⟨files, false⟩ => .ok files
  | _ => .error (.serviceUnavailable "This project is too large to compare safely right now.")

/-- The tree last received; no files when its revision is unknown. -/
def listBase (api : GitHubReads) (src : UpdateSource) : Result (Option Tree) :=
  match nonEmpty src.baseSha with
  | some baseSha => api.listTree src.installationId src.sourceRef baseSha
  | none => .ok (some ⟨[], false⟩)

/-- The part of `courseUpdate` that follows the checks. -/
def planUpdate (api : GitHubReads) (src : UpdateSource) : Result CourseUpdatePlan := do
  let unread : HttpError := .serviceUnavailable "Could not read the latest course or student project version."
  let sourceHead ← api.getBranchHead src.installationId src.sourceRef src.sourceBranch
  let studentHead ← api.getBranchHead src.installationId src.studentRef src.studentBranch
  let sourceSha ← orThrow (nonEmpty sourceHead) unread
  let studentSha ← orThrow (nonEmpty studentHead) unread
  let sourceCommit ← api.getCommit src.installationId src.sourceRef sourceSha
  let plan (status : UpdateStatus) (files : List CourseUpdateFile) : CourseUpdatePlan :=
    { status := status
      courseRepository := src.sourceRef.owner ++ "/" ++ src.sourceRef.repo
      checkpointTitle := checkpointTitle sourceCommit
      baseSha := src.baseSha
      courseSha := sourceSha
      studentSha := studentSha
      files := files }
  if src.baseSha = some sourceSha then return plan .upToDate []
  else
    let courseTree ← api.listTree src.installationId src.sourceRef sourceSha
    let studentTree ← api.listTree src.installationId src.studentRef studentSha
    let baseTree ← listBase api src
    let course ← complete courseTree
    let student ← complete studentTree
    let base ← complete baseTree
    let t : UpdateTrees := ⟨base, course, student⟩
    ensure ((changedPaths t).length ≤ maxUpdateFiles)
      (.serviceUnavailable "This course update changes too many files to apply safely.")
    let files ← planFiles (api.readBlobBase64 src.installationId src.sourceRef) t 0 (changedPaths t)
    return plan (if files.any (·.disposition ≠ .alreadyApplied) then .updateAvailable else .upToDate) files

def courseUpdate (api : GitHubReads) (rows : Rows) (user : UserId) (enrollmentId : EnrollmentId) :
    Result CourseUpdatePlan := do
  let ctx ← loadContext rows user enrollmentId
  let src ← updateSource ctx
  planUpdate api src

end Livetich.Workspace
