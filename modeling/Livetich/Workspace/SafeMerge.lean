/-
What applying a course update does to the student's tree. The entries to apply are those of a
three-way merge over the paths that the plan supports, so the student's own changes stay; planning
again on the result finds nothing left to do exactly when no entry was in conflict or unsupported.
-/
import Livetich.Lib.ThreeWay
import Livetich.Workspace.CourseUpdate

namespace Livetich.Workspace

open Livetich.Lib

/-! ## Applying a plan -/

/-- One entry of the plan, applied by the editor: a write puts the course's blob. -/
def applyFile (course tree : String → Option String) (file : CourseUpdateFile) : String → Option String :=
  if file.disposition = .apply then
    Function.update tree file.path (match file.operation with
      | .write => course file.path
      | .delete => none)
  else tree

/-- The student's tree once the editor has applied the plan. -/
def UpdateTrees.merged (t : UpdateTrees) (plan : CourseUpdatePlan) : String → Option String :=
  plan.files.foldl (applyFile (shaAt t.course)) (shaAt t.student)

/-! ## One entry -/

/-- What the three trees say about a path. -/
def judge (t : UpdateTrees) (path : String) : Disposition :=
  if shaAt t.course path = shaAt t.student path then .alreadyApplied
  else if shaAt t.student path = shaAt t.base path then .apply
  else .conflict

theorem same_sha (a b : Option TreeEntry) :
    (a.map (·.sha) == b.map (·.sha) || (a.isNone && b.isNone)) = decide (a.map (·.sha) = b.map (·.sha)) := by
  cases a with
  | none => cases b <;> rfl
  | some x =>
    cases b with
    | none => rfl
    | some y => simp [Bool.beq_eq_decide_eq]

theorem planFile_eq (readBlob : String → Result (Option Blob)) (t : UpdateTrees) (totalBytes : Nat) (path : String) :
    planFile readBlob t totalBytes path =
      planEntry readBlob totalBytes path (fileAt t.course path) (judge t path) := by
  unfold planFile dispositionOf judge shaAt
  simp only [same_sha, Bool.and_comm (x := (fileAt t.base path).isNone), decide_eq_true_eq]

/-- What `planEntry` makes of a disposition. -/
structure EntryFor (path : String) (course : Option TreeEntry) (disposition : Disposition)
    (file : CourseUpdateFile) : Prop where
  path : file.path = path
  operation : file.operation = .write ↔ course.isSome
  disposition : file.disposition = .unsupported ∨ file.disposition = disposition

theorem planEntry_ok {readBlob : String → Result (Option Blob)} {totalBytes total' : Nat} {path : String}
    {course : Option TreeEntry} {disposition : Disposition} {file : CourseUpdateFile}
    (h : planEntry readBlob totalBytes path course disposition = .ok (total', file)) :
    EntryFor path course disposition file := by
  have hop : (if course.isSome then Operation.write else .delete) = .write ↔ course.isSome := by
    cases course <;> simp
  unfold planEntry at h
  simp only at h
  split at h
  · cases h
    exact ⟨rfl, hop, .inl rfl⟩
  · split at h
    · cases h
    · split at h
      · cases h
        exact ⟨rfl, hop, .inr rfl⟩
      · split at h
        · cases h
          exact ⟨rfl, hop, .inr rfl⟩
        · obtain ⟨blob, -, h⟩ := bind_ok_iff.1 h
          split at h
          · cases h
            exact ⟨rfl, hop, .inl rfl⟩
          · split at h
            · cases h
              exact ⟨rfl, hop, .inl rfl⟩
            · cases h
              exact ⟨rfl, hop, .inr rfl⟩

/-- Where the course's file is not refused, it is not refused once it is applied either. -/
theorem planEntry_alreadyApplied {readBlob : String → Result (Option Blob)} {totalBytes total' : Nat} {path : String}
    {course : Option TreeEntry} {disposition : Disposition} {file : CourseUpdateFile}
    (h : planEntry readBlob totalBytes path course disposition = .ok (total', file))
    (hfile : file.disposition ≠ .unsupported) :
    ∃ again, planEntry readBlob totalBytes path course .alreadyApplied = .ok (total', again) ∧
      again.disposition = .alreadyApplied := by
  unfold planEntry at h ⊢
  simp only at h ⊢
  split at h
  · cases h
    exact absurd rfl hfile
  · rename_i hlarge
    rw [if_neg hlarge]
    split at h
    · cases h
    · rename_i hbytes
      rw [if_neg hbytes]
      cases course with
      | none =>
        cases h
        exact ⟨_, rfl, rfl⟩
      | some entry =>
        refine ⟨⟨path, .write, .alreadyApplied, none, some entry.size⟩, ?_, rfl⟩
        simp only at h
        have htotal : total' = totalBytes + entry.size := by
          split at h
          · cases h
            rfl
          · obtain ⟨blob, -, h⟩ := bind_ok_iff.1 h
            split at h
            · cases h
              rfl
            · split at h
              · cases h
                rfl
              · cases h
                rfl
        rw [htotal]
        rfl

/-! ## The whole plan -/

/-- What the loop says about the path of one entry. -/
structure Planned (t : UpdateTrees) (file : CourseUpdateFile) : Prop where
  operation : file.operation = .write ↔ (shaAt t.course file.path).isSome
  disposition : file.disposition = .unsupported ∨ file.disposition = judge t file.path

theorem planFiles_ok {readBlob : String → Result (Option Blob)} {t : UpdateTrees} :
    ∀ {paths : List String} {totalBytes : Nat} {files : List CourseUpdateFile},
      planFiles readBlob t totalBytes paths = .ok files →
      files.map (·.path) = paths ∧ ∀ file ∈ files, Planned t file
  | [], _, _, h => by
    cases h
    exact ⟨rfl, by simp⟩
  | path :: paths, totalBytes, _, h => by
    unfold planFiles at h
    obtain ⟨⟨total', file⟩, hfile, h⟩ := bind_ok_iff.1 h
    obtain ⟨files, hfiles, h⟩ := bind_ok_iff.1 h
    cases h
    rw [planFile_eq] at hfile
    obtain ⟨rfl, hop, hdisp⟩ := planEntry_ok hfile
    obtain ⟨hpaths, hplanned⟩ := planFiles_ok hfiles
    refine ⟨by rw [List.map_cons, hpaths], ?_⟩
    rw [List.forall_mem_cons]
    exact ⟨⟨by rw [hop, shaAt, Option.isSome_map], hdisp⟩, hplanned⟩

theorem fileAt_path {files : List TreeEntry} {path : String} {sha : String} (h : shaAt files path = some sha) :
    path ∈ files.map (·.path) := by
  obtain ⟨file, hfile, -⟩ := Option.map_eq_some_iff.1 h
  have hpath : file.path = path := by simpa using List.find?_some hfile
  exact List.mem_map.2 ⟨file, List.mem_reverse.1 (List.mem_of_find?_eq_some hfile), hpath⟩

theorem mem_changedPaths {t : UpdateTrees} {path : String} :
    path ∈ changedPaths t ↔ isCourseSyncPath path = true ∧ shaAt t.base path ≠ shaAt t.course path := by
  unfold changedPaths
  simp only [List.mem_insertionSort, List.mem_filter, List.mem_dedup, List.mem_append, decide_eq_true_eq]
  constructor
  · rintro ⟨⟨-, hsync⟩, hne⟩
    exact ⟨hsync, hne⟩
  · rintro ⟨hsync, hne⟩
    refine ⟨⟨?_, hsync⟩, hne⟩
    -- A path on which the two differ is in at least one of them.
    cases hb : shaAt t.base path with
    | some sha => exact .inl (fileAt_path hb)
    | none =>
      cases hc : shaAt t.course path with
      | some sha => exact .inr (fileAt_path hc)
      | none => exact absurd (hb.trans hc.symm) hne

theorem nodup_changedPaths (t : UpdateTrees) : (changedPaths t).Nodup :=
  (List.perm_insertionSort _ _).nodup_iff.2 (((List.nodup_dedup _).filter _).filter _)

/-- The entries of a plan are right and are those of the changed paths. -/
structure PlanFor (t : UpdateTrees) (plan : CourseUpdatePlan) : Prop where
  paths : plan.files.map (·.path) = changedPaths t
  planned : ∀ file ∈ plan.files, Planned t file

theorem PlanFor.unique {t : UpdateTrees} {plan : CourseUpdatePlan} (h : PlanFor t plan) {a b : CourseUpdateFile}
    (ha : a ∈ plan.files) (hb : b ∈ plan.files) (hpath : a.path = b.path) : a = b :=
  List.inj_on_of_nodup_map (h.paths ▸ nodup_changedPaths t) ha hb hpath

/-- An entry that is not a refusal. -/
def supports (plan : CourseUpdatePlan) (path : String) : Bool :=
  plan.files.any fun file => file.path == path && file.disposition != .unsupported

/-- The entries in the order of the loop: at each path the last one to be applied counts, and every
one of them puts what the course has there. -/
theorem foldl_applyFile {t : UpdateTrees} (path : String) :
    ∀ {files : List CourseUpdateFile} (tree : String → Option String), (∀ file ∈ files, Planned t file) →
      files.foldl (applyFile (shaAt t.course)) tree path =
        if ∃ file ∈ files, file.path = path ∧ file.disposition = .apply then shaAt t.course path else tree path
  | [], tree, _ => by simp
  | file :: files, tree, h => by
    rw [List.forall_mem_cons] at h
    rw [List.foldl_cons, foldl_applyFile path _ h.2]
    by_cases hlater : ∃ file ∈ files, file.path = path ∧ file.disposition = .apply
    · obtain ⟨other, hother, heq⟩ := hlater
      rw [if_pos ⟨other, hother, heq⟩, if_pos ⟨other, List.mem_cons_of_mem _ hother, heq⟩]
    · rw [if_neg hlater]
      by_cases hhere : file.path = path ∧ file.disposition = .apply
      · obtain ⟨rfl, happly⟩ := hhere
        rw [if_pos ⟨file, List.mem_cons_self, rfl, happly⟩]
        unfold applyFile
        rw [if_pos happly, Function.update_self]
        have hop := h.1.operation
        cases hfile : file.operation with
        | write => rfl
        | delete =>
          rw [hfile] at hop
          cases hc : shaAt t.course file.path with
          | none => rfl
          | some sha => simp [hc] at hop
      · have hnone : ¬ ∃ other ∈ file :: files, other.path = path ∧ other.disposition = .apply := by
          rintro ⟨other, hother, heq⟩
          rcases List.mem_cons.1 hother with rfl | hother
          · exact hhere heq
          · exact hlater ⟨other, hother, heq⟩
        rw [if_neg hnone]
        unfold applyFile
        by_cases happly : file.disposition = .apply
        · rw [if_pos happly, Function.update_of_ne]
          exact fun hpath => hhere ⟨hpath.symm, happly⟩
        · rw [if_neg happly]

theorem judge_apply {t : UpdateTrees} {path : String} :
    judge t path = .apply ↔
      shaAt t.base path ≠ shaAt t.course path ∧ shaAt t.student path = shaAt t.base path := by
  unfold judge
  constructor
  · intro h
    split at h
    · cases h
    · rename_i hne
      split at h
      · rename_i heq
        exact ⟨fun hbc => hne (hbc ▸ heq.symm), heq⟩
      · cases h
  · rintro ⟨hne, heq⟩
    rw [if_neg fun hcs => hne (hcs.trans heq).symm, if_pos heq]

/-- Applying a plan is the three-way merge over the paths it supports. -/
theorem merged_eq {t : UpdateTrees} {plan : CourseUpdatePlan} (h : PlanFor t plan) :
    t.merged plan = threeWay (supports plan) (shaAt t.base) (shaAt t.course) (shaAt t.student) := by
  funext path
  unfold UpdateTrees.merged threeWay
  rw [foldl_applyFile path _ h.planned]
  refine if_congr ⟨?_, ?_⟩ rfl rfl
  · rintro ⟨file, hmem, rfl, happly⟩
    have hjudge : judge t file.path = .apply := by
      rcases (h.planned file hmem).disposition with hu | hj
      · rw [happly] at hu
        cases hu
      · rw [← hj, happly]
    refine ⟨List.any_eq_true.2 ⟨file, hmem, ?_⟩, judge_apply.1 hjudge⟩
    rw [happly]
    simp
  · rintro ⟨hsel, hpath⟩
    obtain ⟨file, hmem, hfile⟩ := List.any_eq_true.1 hsel
    simp only [Bool.and_eq_true, beq_iff_eq, bne_iff_ne, ne_eq] at hfile
    obtain ⟨rfl, hsupported⟩ := hfile
    refine ⟨file, hmem, rfl, ?_⟩
    rw [(h.planned file hmem).disposition.resolve_left hsupported]
    exact judge_apply.2 hpath

/-! ## Planning again -/

/-- An entry that leaves nothing to do once the plan is applied. -/
def CourseUpdateFile.settles (file : CourseUpdateFile) : Bool :=
  file.disposition != .conflict && file.disposition != .unsupported

theorem judge_of_own {t : UpdateTrees} {own : List TreeEntry} {path : String}
    (h : shaAt own path = shaAt t.student path) : judge { t with student := own } path = judge t path := by
  unfold judge
  show (if shaAt t.course path = shaAt own path then _ else if shaAt own path = shaAt t.base path then _ else _) = _
  rw [h]

theorem judge_of_course {t : UpdateTrees} {own : List TreeEntry} {path : String}
    (h : shaAt own path = shaAt t.course path) : judge { t with student := own } path = .alreadyApplied :=
  if_pos h.symm

theorem judge_alreadyApplied {t : UpdateTrees} {path : String} (h : judge t path = .alreadyApplied) :
    shaAt t.student path = shaAt t.course path := by
  unfold judge at h
  split at h
  · rename_i heq
    exact heq.symm
  · split at h <;> cases h

/-- The round on the tree that the plan's entry left: an entry that settles its path is found applied,
and any other is planned as before. -/
theorem planFile_again {readBlob : String → Result (Option Blob)} {t : UpdateTrees} {totalBytes total' : Nat}
    {path : String} {file : CourseUpdateFile} (h : planFile readBlob t totalBytes path = .ok (total', file))
    {own : List TreeEntry}
    (hown : shaAt own path = if file.disposition = .apply then shaAt t.course path else shaAt t.student path) :
    ∃ again, planFile readBlob { t with student := own } totalBytes path = .ok (total', again) ∧
      (again.disposition = .alreadyApplied ↔ file.settles = true) := by
  rw [planFile_eq] at h ⊢
  have hentry := planEntry_ok h
  show ∃ again, planEntry readBlob totalBytes path (fileAt t.course path) _ = _ ∧ _
  by_cases hsettles : file.settles = true
  · have hne : file.disposition ≠ .conflict ∧ file.disposition ≠ .unsupported := by
      simpa [CourseUpdateFile.settles] using hsettles
    have hcourse : shaAt own path = shaAt t.course path := by
      rw [hown]
      split
      · rfl
      · rename_i hnot
        have hjudge := hentry.disposition.resolve_left hne.2
        refine judge_alreadyApplied ?_
        rw [← hjudge]
        cases hd : file.disposition with
        | alreadyApplied => rfl
        | apply => exact absurd hd hnot
        | conflict => exact absurd hd hne.1
        | unsupported => exact absurd hd hne.2
    rw [judge_of_course hcourse]
    obtain ⟨again, hagain, hdisp⟩ := planEntry_alreadyApplied h hne.2
    exact ⟨again, hagain, by simp [hdisp, hsettles]⟩
  · have hrefused : file.disposition = .conflict ∨ file.disposition = .unsupported := by
      simpa [CourseUpdateFile.settles, or_iff_not_imp_left] using hsettles
    have hstudent : shaAt own path = shaAt t.student path := by
      rw [hown, if_neg]
      rcases hrefused with hd | hd <;> simp [hd]
    rw [judge_of_own hstudent]
    refine ⟨file, h, ?_⟩
    rcases hrefused with hd | hd <;> simp [hd, CourseUpdateFile.settles]

theorem planFiles_again {readBlob : String → Result (Option Blob)} {t : UpdateTrees} {own : List TreeEntry} :
    ∀ {paths : List String} {totalBytes : Nat} {files : List CourseUpdateFile},
      planFiles readBlob t totalBytes paths = .ok files →
      (∀ file ∈ files, shaAt own file.path =
        if file.disposition = .apply then shaAt t.course file.path else shaAt t.student file.path) →
      ∃ again, planFiles readBlob { t with student := own } totalBytes paths = .ok again ∧
        (again.any (·.disposition ≠ .alreadyApplied) = false ↔ files.all CourseUpdateFile.settles = true)
  | [], _, _, h, _ => by
    cases h
    exact ⟨[], rfl, by simp⟩
  | path :: paths, totalBytes, _, h, hown => by
    unfold planFiles at h ⊢
    obtain ⟨⟨total', file⟩, hfile, h⟩ := bind_ok_iff.1 h
    obtain ⟨files, hfiles, h⟩ := bind_ok_iff.1 h
    cases h
    rw [List.forall_mem_cons] at hown
    have hpath : file.path = path := by
      rw [planFile_eq] at hfile
      exact (planEntry_ok hfile).path
    obtain ⟨first, hfirst, hfirst'⟩ := planFile_again hfile (hpath ▸ hown.1)
    obtain ⟨rest, hrest, hrest'⟩ := planFiles_again hfiles hown.2
    refine ⟨first :: rest, ?_, ?_⟩
    · rw [bind_ok_iff]
      refine ⟨_, hfirst, ?_⟩
      rw [bind_ok_iff]
      exact ⟨rest, hrest, rfl⟩
    · rw [List.any_cons, List.all_cons, Bool.or_eq_false_iff, Bool.and_eq_true, hrest', ← hfirst']
      simp

/-! ## The update as a whole -/

/-- The trees at the revisions that a plan names; an unknown base has no files. -/
structure Reads (api : GitHubReads) (src : UpdateSource) (plan : CourseUpdatePlan) (t : UpdateTrees) : Prop where
  course : ∃ truncated, api.listTree src.installationId src.sourceRef plan.courseSha = .ok (some ⟨t.course, truncated⟩)
  student : ∃ truncated,
    api.listTree src.installationId src.studentRef plan.studentSha = .ok (some ⟨t.student, truncated⟩)
  base : ∃ truncated, listBase api src = .ok (some ⟨t.base, truncated⟩)

theorem complete_ok {tree : Option Tree} {files : List TreeEntry} (h : complete tree = .ok files) :
    tree = some ⟨files, false⟩ := by
  unfold complete at h
  split at h
  · cases h
    rfl
  · cases h

theorem nonEmpty_some {x : Option String} {s : String} (h : nonEmpty x = some s) : x = some s ∧ s ≠ "" := by
  obtain ⟨hx, hs⟩ := Option.filter_eq_some_iff.1 h
  exact ⟨hx, by simpa using hs⟩

/-- The trees were listed in full and compared. -/
structure Compared (api : GitHubReads) (src : UpdateSource) (plan : CourseUpdatePlan) (t : UpdateTrees) : Prop where
  course : api.listTree src.installationId src.sourceRef plan.courseSha = .ok (some ⟨t.course, false⟩)
  student : api.listTree src.installationId src.studentRef plan.studentSha = .ok (some ⟨t.student, false⟩)
  base : listBase api src = .ok (some ⟨t.base, false⟩)
  count : (changedPaths t).length ≤ maxUpdateFiles
  files : planFiles (api.readBlobBase64 src.installationId src.sourceRef) t 0 (changedPaths t) = .ok plan.files

theorem Compared.reads {api : GitHubReads} {src : UpdateSource} {plan : CourseUpdatePlan} {t : UpdateTrees}
    (h : Compared api src plan t) : Reads api src plan t :=
  ⟨⟨false, h.course⟩, ⟨false, h.student⟩, ⟨false, h.base⟩⟩

/-- What is read and found when a plan is returned: the base is the course's revision, or the trees
were compared. -/
structure Planning (api : GitHubReads) (src : UpdateSource) (plan : CourseUpdatePlan) : Prop where
  courseSha : plan.courseSha ≠ ""
  courseHead : api.getBranchHead src.installationId src.sourceRef src.sourceBranch = .ok (some plan.courseSha)
  commit : ∃ commit, api.getCommit src.installationId src.sourceRef plan.courseSha = .ok commit
  files : (src.baseSha = some plan.courseSha ∧ plan.files = [] ∧ plan.status = .upToDate) ∨
    (src.baseSha ≠ some plan.courseSha ∧ ∃ t, Compared api src plan t)

theorem planUpdate_ok {api : GitHubReads} {src : UpdateSource} {plan : CourseUpdatePlan}
    (h : planUpdate api src = .ok plan) : Planning api src plan := by
  unfold planUpdate at h
  obtain ⟨courseHead, hcourse, h⟩ := bind_ok_iff.1 h
  obtain ⟨studentHead, hstudent, h⟩ := bind_ok_iff.1 h
  obtain ⟨courseSha, hcourseSha, h⟩ := bind_ok_iff.1 h
  obtain ⟨studentSha, hstudentSha, h⟩ := bind_ok_iff.1 h
  obtain ⟨commit, hcommit, h⟩ := bind_ok_iff.1 h
  obtain ⟨hhead, hne⟩ := nonEmpty_some (orThrow_ok_iff.1 hcourseSha)
  rw [hhead] at hcourse
  simp only at h
  split at h
  · rename_i heq
    cases h
    exact ⟨hne, hcourse, ⟨commit, hcommit⟩, .inl ⟨heq, rfl, rfl⟩⟩
  · rename_i hbase
    obtain ⟨courseTree, hcourseTree, h⟩ := bind_ok_iff.1 h
    obtain ⟨studentTree, hstudentTree, h⟩ := bind_ok_iff.1 h
    obtain ⟨baseTree, hbaseTree, h⟩ := bind_ok_iff.1 h
    obtain ⟨course, hc, h⟩ := bind_ok_iff.1 h
    obtain ⟨student, hs, h⟩ := bind_ok_iff.1 h
    obtain ⟨base, hb, h⟩ := bind_ok_iff.1 h
    obtain ⟨_, hcount, h⟩ := bind_ok_iff.1 h
    obtain ⟨files, hfiles, h⟩ := bind_ok_iff.1 h
    cases h
    rw [complete_ok hc] at hcourseTree
    rw [complete_ok hs] at hstudentTree
    rw [complete_ok hb] at hbaseTree
    exact ⟨hne, hcourse, ⟨commit, hcommit⟩, .inr ⟨hbase, ⟨base, course, student⟩, hcourseTree, hstudentTree,
      hbaseTree, ensure_ok_iff.1 hcount, hfiles⟩⟩

theorem nonEmpty_of_ne {s : String} (h : s ≠ "") : nonEmpty (some s) = some s :=
  Option.filter_eq_some_iff.2 ⟨rfl, by simpa using h⟩

theorem Reads.unique {api : GitHubReads} {src : UpdateSource} {plan : CourseUpdatePlan} {t u : UpdateTrees}
    (ht : Reads api src plan t) (hu : Reads api src plan u) : t = u := by
  obtain ⟨⟨_, hc⟩, ⟨_, hs⟩, ⟨_, hb⟩⟩ := ht
  obtain ⟨⟨_, hc'⟩, ⟨_, hs'⟩, ⟨_, hb'⟩⟩ := hu
  rw [hc] at hc'
  rw [hs] at hs'
  rw [hb] at hb'
  cases t
  cases u
  simp only [Except.ok.injEq, Option.some.injEq, Tree.mk.injEq] at hc' hs' hb'
  rw [hc'.1, hs'.1, hb'.1]

/-- The plan is one for the trees it names, also where it was returned without comparing them. -/
theorem Planning.planFor {api : GitHubReads} {src : UpdateSource} {plan : CourseUpdatePlan} {t : UpdateTrees}
    (h : Planning api src plan) (ht : Reads api src plan t) : PlanFor t plan := by
  rcases h.files with ⟨hbase, hfiles, -⟩ | ⟨-, u, hu⟩
  · have htrees : t.base = t.course := by
      obtain ⟨_, hb⟩ := ht.base
      obtain ⟨_, hc⟩ := ht.course
      unfold listBase at hb
      rw [hbase, nonEmpty_of_ne h.courseSha] at hb
      simp only at hb
      rw [hc] at hb
      simp only [Except.ok.injEq, Option.some.injEq, Tree.mk.injEq] at hb
      exact hb.1.symm
    have hnone : changedPaths t = [] := by
      rw [List.eq_nil_iff_forall_not_mem]
      intro path hpath
      exact (mem_changedPaths.1 hpath).2 (by rw [htrees])
    exact ⟨by rw [hfiles, hnone]; rfl, by simp [hfiles]⟩
  · rw [← hu.reads.unique ht]
    obtain ⟨hpaths, hplanned⟩ := planFiles_ok hu.files
    exact ⟨hpaths, hplanned⟩

/-- What applying a plan does to the student's tree. -/
structure SafeMerge (t : UpdateTrees) (plan : CourseUpdatePlan) : Prop where
  keeps : ∀ path, shaAt t.student path ≠ shaAt t.base path → t.merged plan path = shaAt t.student path
  within : ∀ path, isCourseSyncPath path = false → t.merged plan path = shaAt t.student path
  agreeing : ∀ path, shaAt t.base path = shaAt t.course path → t.merged plan path = shaAt t.student path
  takes : plan.files.all CourseUpdateFile.settles = true → ∀ path, isCourseSyncPath path = true →
    shaAt t.base path ≠ shaAt t.course path → t.merged plan path = shaAt t.course path

theorem supports_sync {t : UpdateTrees} {plan : CourseUpdatePlan} (h : PlanFor t plan) {path : String}
    (hpath : isCourseSyncPath path = false) : supports plan path = false := by
  rw [Bool.eq_false_iff]
  intro hsel
  obtain ⟨file, hmem, hfile⟩ := List.any_eq_true.1 hsel
  have heq : file.path = path := by simpa using (Bool.and_eq_true_iff.1 hfile).1
  have hchanged : path ∈ changedPaths t := heq ▸ h.paths ▸ List.mem_map_of_mem hmem
  rw [(mem_changedPaths.1 hchanged).1] at hpath
  cases hpath

theorem PlanFor.safeMerge {t : UpdateTrees} {plan : CourseUpdatePlan} (h : PlanFor t plan) : SafeMerge t plan := by
  have hmerged := merged_eq h
  refine ⟨fun path hpath => ?_, fun path hpath => ?_, fun path hpath => ?_, ?_⟩
  · rw [hmerged, threeWay_of_changed hpath]
  · rw [hmerged, threeWay_of_not_sel (supports_sync h hpath)]
  · rw [hmerged, threeWay_of_agree hpath]
  intro hsettles path hsync hne
  rw [hmerged]
  obtain ⟨file, hmem, rfl⟩ := List.mem_map.1 (h.paths ▸ mem_changedPaths.2 ⟨hsync, hne⟩)
  have hfile := List.all_eq_true.1 hsettles file hmem
  have hrefused : file.disposition ≠ .conflict ∧ file.disposition ≠ .unsupported := by
    simpa [CourseUpdateFile.settles] using hfile
  have hjudge := (h.planned file hmem).disposition.resolve_left hrefused.2
  refine threeWay_eq_other ?_ hne ?_
  · exact List.any_eq_true.2 ⟨file, hmem, by simpa using hrefused.2⟩
  · -- What is neither refused nor in conflict is untouched by the student or already the course's.
    cases hd : judge t file.path with
    | apply => exact .inl (judge_apply.1 hd).2
    | alreadyApplied => exact .inr (judge_alreadyApplied hd)
    | conflict => exact absurd (hjudge.trans hd) hrefused.1
    | unsupported => exact absurd (hjudge.trans hd) hrefused.2

/-- Each entry's path after the plan is applied. -/
theorem PlanFor.applied {t : UpdateTrees} {plan : CourseUpdatePlan} (h : PlanFor t plan) {file : CourseUpdateFile}
    (hmem : file ∈ plan.files) : t.merged plan file.path =
      if file.disposition = .apply then shaAt t.course file.path else shaAt t.student file.path := by
  unfold UpdateTrees.merged
  rw [foldl_applyFile file.path _ h.planned]
  refine if_congr ⟨?_, fun happly => ⟨file, hmem, rfl, happly⟩⟩ rfl rfl
  rintro ⟨other, hother, hpath, happly⟩
  rwa [h.unique hother hmem hpath] at happly

/-- GitHub once the editor has pushed the result: the course's repository is as it was, and the head
of the student's branch has the merged tree. -/
structure Pushed (api api' : GitHubReads) (src : UpdateSource) (plan : CourseUpdatePlan)
    (merged : String → Option String) : Prop where
  courseHead : api'.getBranchHead src.installationId src.sourceRef src.sourceBranch = .ok (some plan.courseSha)
  commit : api'.getCommit src.installationId src.sourceRef plan.courseSha =
    api.getCommit src.installationId src.sourceRef plan.courseSha
  courseTree : api'.listTree src.installationId src.sourceRef plan.courseSha =
    api.listTree src.installationId src.sourceRef plan.courseSha
  baseTree : listBase api' src = listBase api src
  blobs : api'.readBlobBase64 src.installationId src.sourceRef = api.readBlobBase64 src.installationId src.sourceRef
  student : ∃ sha files, sha ≠ "" ∧
    api'.getBranchHead src.installationId src.studentRef src.studentBranch = .ok (some sha) ∧
    api'.listTree src.installationId src.studentRef sha = .ok (some ⟨files, false⟩) ∧ shaAt files = merged

/-- Planning again on the result returns a plan, which is up to date exactly when nothing was refused. -/
theorem planUpdate_pushed {api api' : GitHubReads} {src : UpdateSource} {plan : CourseUpdatePlan} {t : UpdateTrees}
    (h : planUpdate api src = .ok plan) (ht : Reads api src plan t)
    (hpushed : Pushed api api' src plan (t.merged plan)) :
    ∃ again, planUpdate api' src = .ok again ∧
      (again.status = .upToDate ↔ plan.files.all CourseUpdateFile.settles = true) := by
  have hplan := planUpdate_ok h
  obtain ⟨sha, own, hsha, hhead, htree, hown⟩ := hpushed.student
  obtain ⟨commit, hcommit⟩ := hplan.commit
  rw [← hpushed.commit] at hcommit
  have hcourseSha : ∀ e : HttpError, orThrow (nonEmpty (some plan.courseSha)) e = .ok plan.courseSha :=
    fun e => orThrow_ok_iff.2 (nonEmpty_of_ne hplan.courseSha)
  have hstudentSha : ∀ e : HttpError, orThrow (nonEmpty (some sha)) e = .ok sha :=
    fun e => orThrow_ok_iff.2 (nonEmpty_of_ne hsha)
  unfold planUpdate
  simp only [hpushed.courseHead, hhead, hcommit, hcourseSha, hstudentSha, ok_bind]
  rcases hplan.files with ⟨hbase, hfiles, -⟩ | ⟨hbase, u, hu⟩
  · rw [if_pos hbase]
    exact ⟨_, rfl, by simp [hfiles]⟩
  · obtain rfl := hu.reads.unique ht
    have hfor := hplan.planFor ht
    have happlied : ∀ file ∈ plan.files, shaAt own file.path =
        if file.disposition = .apply then shaAt u.course file.path else shaAt u.student file.path :=
      fun file hmem => by rw [hown, hfor.applied hmem]
    obtain ⟨files, hfiles, hstatus⟩ := planFiles_again hu.files happlied
    have hcount : ∀ e : HttpError, ensure ((changedPaths ⟨u.base, u.course, own⟩).length ≤ maxUpdateFiles) e = .ok () :=
      fun e => ensure_ok_iff.2 hu.count
    have hagain : planFiles (api.readBlobBase64 src.installationId src.sourceRef) ⟨u.base, u.course, own⟩ 0
        (changedPaths ⟨u.base, u.course, own⟩) = .ok files := hfiles
    rw [if_neg hbase]
    simp only [hpushed.courseTree, hu.course, htree, hpushed.baseTree, hu.base, complete, ok_bind, hcount,
      hpushed.blobs, hagain]
    refine ⟨_, rfl, ?_⟩
    rw [← hstatus]
    simp only
    split
    · rename_i hany
      simp only [hany]
      simp
    · rename_i hany
      simp only [Bool.not_eq_true] at hany
      simp only [hany]

/-- The course update never changes what the student changed, nor a path outside the course's changes;
where nothing is refused it takes every change over, and exactly then planning again finds nothing to do. -/
theorem courseUpdate_safe {api : GitHubReads} {rows : Rows} {user : UserId} {enrollmentId : EnrollmentId}
    {plan : CourseUpdatePlan} (h : courseUpdate api rows user enrollmentId = .ok plan) :
    ∃ src, (loadContext rows user enrollmentId >>= updateSource) = .ok src ∧
      (src.baseSha ≠ some plan.courseSha → ∃ t, Reads api src plan t) ∧
      ∀ t, Reads api src plan t → SafeMerge t plan ∧
        ∀ api', Pushed api api' src plan (t.merged plan) →
          ∃ again, courseUpdate api' rows user enrollmentId = .ok again ∧
            (again.status = .upToDate ↔ plan.files.all CourseUpdateFile.settles = true) := by
  unfold courseUpdate at h
  obtain ⟨ctx, hctx, h⟩ := bind_ok_iff.1 h
  obtain ⟨src, hsrc, h⟩ := bind_ok_iff.1 h
  have hplan := planUpdate_ok h
  refine ⟨src, bind_ok_iff.2 ⟨ctx, hctx, hsrc⟩, ?_, ?_⟩
  · intro hne
    rcases hplan.files with ⟨heq, -, -⟩ | ⟨-, t, ht⟩
    · exact absurd heq hne
    · exact ⟨t, ht.reads⟩
  · intro t ht
    refine ⟨(hplan.planFor ht).safeMerge, fun api' hpushed => ?_⟩
    obtain ⟨again, hagain, hstatus⟩ := planUpdate_pushed h ht hpushed
    exact ⟨again, bind_ok_iff.2 ⟨ctx, hctx, bind_ok_iff.2 ⟨src, hsrc, hagain⟩⟩, hstatus⟩

namespace Example

def started : Rows :=
  school (Table.empty.insert "e1" ⟨"fe-sep", "aisha", some 1, some (workspace "fe-sep26-enr1" (some "week1"))⟩)

def starter : RepoRef := ⟨"acme-school", "fe-starter"⟩

/-- In week 2 the course changed `app.js` and added `.env`; the student wrote notes. -/
def trees : UpdateTrees where
  base := [⟨"app.js", 10, "a1"⟩]
  course := [⟨"app.js", 12, "a2"⟩, ⟨".env", 5, "s1"⟩]
  student := [⟨"app.js", 10, "a1"⟩, ⟨"notes.md", 4, "n1"⟩]

def github (head : String) : GitHubReads where
  getBranchHead := fun _ ref _ => .ok (some (if ref = starter then "week2" else head))
  getCommit := fun _ _ _ => .ok (some ⟨"Livetich: class update - Week 2"⟩)
  listTree := fun _ ref sha => .ok (some ⟨
    if ref = starter then if sha = "week1" then trees.base else trees.course
    else if sha = "own" then trees.student else [⟨"app.js", 12, "a2"⟩, ⟨"notes.md", 4, "n1"⟩], false⟩)
  readBlobBase64 := fun _ _ _ => .ok (some ⟨"YXBw", 12⟩)

def source : UpdateSource := ⟨"77", starter, "main", ⟨"acme-school", "fe-sep26-enr1"⟩, "main", some "week1"⟩

def week2 : CourseUpdatePlan where
  status := .updateAvailable
  courseRepository := "acme-school/fe-starter"
  checkpointTitle := "Week 2"
  baseSha := some "week1"
  courseSha := "week2"
  studentSha := "own"
  files := [⟨"app.js", .write, .apply, some "YXBw", some 12⟩]

theorem reads_trees : Reads (github "own") source week2 trees :=
  ⟨⟨false, rfl⟩, ⟨false, rfl⟩, ⟨false, rfl⟩⟩

/-- The editor has applied the plan and pushed. -/
theorem pushed_trees : Pushed (github "own") (github "merged") source week2 (trees.merged week2) := by
  refine ⟨rfl, rfl, rfl, rfl, rfl, "merged", _, by decide, rfl, rfl, ?_⟩
  funext path
  by_cases happ : path = "app.js"
  · subst happ
    rfl
  · have hne : ("app.js" == path) = false := by simpa using Ne.symm happ
    show shaAt [⟨"app.js", 12, "a2"⟩, ⟨"notes.md", 4, "n1"⟩] path =
      Function.update (shaAt trees.student) "app.js" (some "a2") path
    rw [Function.update_of_ne happ]
    unfold shaAt fileAt trees
    simp [List.find?, hne]

end Example

open Example in
/-- The student's notes stay, the secrets of the course do not come over, and then all is up to date. -/
theorem week2_merged : trees.merged week2 "notes.md" = some "n1" ∧ trees.merged week2 ".env" = none ∧
    ∃ again, courseUpdate (github "merged") started "aisha" "e1" = .ok again ∧ again.status = .upToDate := by
  have hplan : courseUpdate (github "own") started "aisha" "e1" = .ok week2 := by decide
  obtain ⟨src, hsrc, -, h⟩ := courseUpdate_safe hplan
  have heq : (loadContext started "aisha" "e1" >>= updateSource) = .ok source := by rfl
  rw [heq] at hsrc
  cases hsrc
  obtain ⟨hsafe, hagain⟩ := h trees reads_trees
  refine ⟨hsafe.keeps "notes.md" (by decide), hsafe.within ".env" (by decide), ?_⟩
  obtain ⟨again, hupdate, hstatus⟩ := hagain (github "merged") pushed_trees
  exact ⟨again, hupdate, hstatus.2 (by decide)⟩

end Livetich.Workspace
