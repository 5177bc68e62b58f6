/-
What the plan of a course update reports. The planner takes the paths one at a time and looks at the
sizes before it compares: a course file whose path runs through one of the student's files is planned
like any other, and a file that is too large to send counts as outstanding even where the student has it.
-/
import Livetich.Workspace.SafeMerge

namespace Livetich.Workspace

open Livetich.Lib

/-! ## One entry -/

/-- The course's file can be sent: it is small enough as it is listed and as it is read. -/
def Transferable (readBlob : String → Result (Option Blob)) (file : TreeEntry) : Prop :=
  file.size ≤ maxUpdateFileBytes ∧
    ∃ blob, readBlob file.sha = .ok (some blob) ∧ blob.size ≤ maxUpdateFileBytes

/-- A deletion is planned as it was judged. -/
theorem planEntry_none {readBlob : String → Result (Option Blob)} {totalBytes total' : Nat} {path : String}
    {disposition : Disposition} {file : CourseUpdateFile}
    (h : planEntry readBlob totalBytes path none disposition = .ok (total', file)) :
    file.disposition = disposition := by
  unfold planEntry at h
  simp only [Option.any_none, Bool.false_eq_true, if_false] at h
  split at h
  · cases h
  · cases h
    rfl

/-- A file that the student does not have yet is planned as it was judged when it can be sent. -/
theorem planEntry_some {readBlob : String → Result (Option Blob)} {totalBytes total' : Nat} {path : String}
    {entry : TreeEntry} {disposition : Disposition} {file : CourseUpdateFile}
    (h : planEntry readBlob totalBytes path (some entry) disposition = .ok (total', file))
    (happlied : disposition ≠ .alreadyApplied) (hsupported : disposition ≠ .unsupported) :
    file.disposition = disposition ↔ Transferable readBlob entry := by
  unfold planEntry at h
  unfold Transferable
  simp only [Option.any_some, decide_eq_true_eq] at h
  split at h
  · rename_i hlarge
    cases h
    constructor
    · intro heq
      exact absurd heq.symm hsupported
    · rintro ⟨hsize, -⟩
      omega
  · rename_i hsize
    split at h
    · cases h
    · obtain ⟨blob, hread, h⟩ := bind_ok_iff.1 h
      rw [hread]
      cases blob with
      | none =>
        cases h
        constructor
        · intro heq
          exact absurd heq.symm hsupported
        · rintro ⟨-, blob, hblob, -⟩
          cases hblob
      | some blob =>
        simp only at h
        split at h
        · rename_i hblob
          cases h
          constructor
          · intro heq
            exact absurd heq.symm hsupported
          · rintro ⟨-, _, heq, hsmall⟩
            cases heq
            omega
        · rename_i hblob
          cases h
          exact ⟨fun _ => ⟨by omega, blob, rfl, by omega⟩, fun _ => rfl⟩

/-- What the student already has is only found so when the course's file is not too large. -/
theorem planEntry_applied_iff {readBlob : String → Result (Option Blob)} {totalBytes total' : Nat} {path : String}
    {course : Option TreeEntry} {disposition : Disposition} {file : CourseUpdateFile}
    (h : planEntry readBlob totalBytes path course disposition = .ok (total', file)) :
    file.disposition = .alreadyApplied ↔
      disposition = .alreadyApplied ∧ ∀ entry, course = some entry → entry.size ≤ maxUpdateFileBytes := by
  have hentry := (planEntry_ok h).disposition
  constructor
  · intro hfile
    have hd : disposition = .alreadyApplied := by
      rcases hentry with hu | heq
      · rw [hfile] at hu
        cases hu
      · rw [← heq, hfile]
    refine ⟨hd, ?_⟩
    rintro entry rfl
    by_contra hlarge
    unfold planEntry at h
    rw [if_pos (by simpa using hlarge)] at h
    cases h
    cases hfile
  · rintro ⟨rfl, hsize⟩
    refine hentry.resolve_left fun hu => ?_
    unfold planEntry at h
    rw [if_neg (by simpa [Option.any_eq_true] using hsize)] at h
    simp only at h
    split at h
    · cases h
    · cases course with
      | none =>
        cases h
        cases hu
      | some entry =>
        cases h
        cases hu

/-! ## The entries of a plan -/

theorem planFiles_mem {readBlob : String → Result (Option Blob)} {t : UpdateTrees} :
    ∀ {paths : List String} {totalBytes : Nat} {files : List CourseUpdateFile},
      planFiles readBlob t totalBytes paths = .ok files → ∀ file ∈ files, ∃ total total',
        planEntry readBlob total file.path (fileAt t.course file.path) (judge t file.path) = .ok (total', file)
  | [], _, _, h => by
    cases h
    simp
  | path :: paths, totalBytes, _, h => by
    unfold planFiles at h
    obtain ⟨⟨total', file⟩, hfile, h⟩ := bind_ok_iff.1 h
    obtain ⟨files, hfiles, h⟩ := bind_ok_iff.1 h
    cases h
    rw [planFile_eq] at hfile
    obtain rfl := (planEntry_ok hfile).path
    rw [List.forall_mem_cons]
    exact ⟨⟨_, _, hfile⟩, planFiles_mem hfiles⟩

theorem Planning.entry {api : GitHubReads} {src : UpdateSource} {plan : CourseUpdatePlan} {t : UpdateTrees}
    (h : Planning api src plan) (ht : Reads api src plan t) : ∀ file ∈ plan.files, ∃ total total',
      planEntry (api.readBlobBase64 src.installationId src.sourceRef) total file.path
        (fileAt t.course file.path) (judge t file.path) = .ok (total', file) := by
  rcases h.files with ⟨-, hfiles, -⟩ | ⟨-, u, hu⟩
  · simp [hfiles]
  · rw [← hu.reads.unique ht]
    exact planFiles_mem hu.files

theorem PlanFor.exists_file {t : UpdateTrees} {plan : CourseUpdatePlan} (h : PlanFor t plan) {path : String}
    (hsync : isCourseSyncPath path = true) (hne : shaAt t.base path ≠ shaAt t.course path) :
    ∃ file ∈ plan.files, file.path = path :=
  List.mem_map.1 (h.paths ▸ mem_changedPaths.2 ⟨hsync, hne⟩)

theorem PlanFor.changed {t : UpdateTrees} {plan : CourseUpdatePlan} (h : PlanFor t plan) {file : CourseUpdateFile}
    (hmem : file ∈ plan.files) :
    isCourseSyncPath file.path = true ∧ shaAt t.base file.path ≠ shaAt t.course file.path :=
  mem_changedPaths.1 (h.paths ▸ List.mem_map_of_mem hmem)

theorem judge_alreadyApplied_iff {t : UpdateTrees} {path : String} :
    judge t path = .alreadyApplied ↔ shaAt t.student path = shaAt t.course path :=
  ⟨judge_alreadyApplied, fun h => if_pos h.symm⟩

theorem judge_conflict_iff {t : UpdateTrees} {path : String} :
    judge t path = .conflict ↔
      shaAt t.course path ≠ shaAt t.student path ∧ shaAt t.student path ≠ shaAt t.base path := by
  unfold judge
  constructor
  · intro h
    split at h
    · cases h
    · rename_i hcourse
      split at h
      · cases h
      · rename_i hbase
        exact ⟨hcourse, hbase⟩
  · rintro ⟨hcourse, hbase⟩
    rw [if_neg hcourse, if_neg hbase]

theorem shaAt_eq_none {files : List TreeEntry} {path : String} : shaAt files path = none ↔ fileAt files path = none :=
  Option.map_eq_none_iff

theorem shaAt_of_fileAt {files : List TreeEntry} {path : String} {file : TreeEntry}
    (h : fileAt files path = some file) : shaAt files path = some file.sha := by
  rw [shaAt, h, Option.map_some]

theorem shaAt_ne_none {files : List TreeEntry} {path : String} :
    shaAt files path ≠ none ↔ ∃ file, fileAt files path = some file := by
  rw [ne_eq, shaAt_eq_none, ← ne_eq, Option.ne_none_iff_exists']

/-! ## Paths that exclude each other -/

/-- The second path runs through the first, which has to be a directory for it. -/
def Inside (p q : String) : Prop := p.toList ++ ['/'] <+: q.toList

instance (p q : String) : Decidable (Inside p q) := inferInstanceAs (Decidable (_ <+: _))

def Collide (p q : String) : Prop := Inside p q ∨ Inside q p

/-- No file's path runs through another file. -/
def WellFormed (tree : String → Option String) : Prop := Free Inside tree

theorem WellFormed.not_collide {tree : String → Option String} (h : WellFormed tree) {p q : String}
    (hp : tree p ≠ none) (hq : tree q ≠ none) : ¬ Collide p q := by
  rintro (hin | hin)
  · exact h p q hp hq hin
  · exact h q p hq hp hin

/-- A file of the student that a deletion by the course does not reach. -/
structure Remains (t : UpdateTrees) (path : String) : Prop where
  present : shaAt t.student path ≠ none
  own : isCourseSyncPath path = true → shaAt t.student path ≠ shaAt t.base path

/-- A plan that no collision spoils: the applied tree has none, it keeps the student's own files, and a
course file that needs the place of a file that stays is in conflict. -/
structure Harmless (t : UpdateTrees) (plan : CourseUpdatePlan) : Prop where
  wellFormed : WellFormed (t.merged plan)
  keeps : ∀ path, shaAt t.student path ≠ none → shaAt t.student path ≠ shaAt t.base path →
    t.merged plan path = shaAt t.student path
  reported : ∀ file ∈ plan.files, file.operation = .write → ∀ path, shaAt t.student path ≠ none →
    t.merged plan path = shaAt t.student path → Collide file.path path → file.disposition = .conflict

/-- Every changed course file that needs the place of a file that stays is one that the student had
deleted, and it can be sent. -/
def OnlyDeletedCollide (readBlob : String → Result (Option Blob)) (t : UpdateTrees) : Prop :=
  ∀ path file, fileAt t.course path = some file → isCourseSyncPath path = true →
    shaAt t.base path ≠ shaAt t.course path → ∀ own, Remains t own → Collide path own →
      shaAt t.base path ≠ none ∧ Transferable readBlob file

theorem PlanFor.takes_iff {t : UpdateTrees} {plan : CourseUpdatePlan} (h : PlanFor t plan) (path : String) :
    Takes (supports plan) (shaAt t.base) (shaAt t.course) (shaAt t.student) path ↔
      ∃ file ∈ plan.files, file.path = path ∧ file.disposition = .apply := by
  unfold Takes
  rw [← judge_apply]
  constructor
  · rintro ⟨hsel, hjudge⟩
    obtain ⟨file, hmem, hfile⟩ := List.any_eq_true.1 hsel
    simp only [Bool.and_eq_true, beq_iff_eq, bne_iff_ne, ne_eq] at hfile
    obtain ⟨rfl, hsupported⟩ := hfile
    exact ⟨file, hmem, rfl, ((h.planned file hmem).disposition.resolve_left hsupported).trans hjudge⟩
  · rintro ⟨file, hmem, rfl, happly⟩
    have hsupported : file.disposition ≠ .unsupported := by
      rw [happly]
      simp
    refine ⟨List.any_eq_true.2 ⟨file, hmem, by simpa using hsupported⟩, ?_⟩
    rw [← (h.planned file hmem).disposition.resolve_left hsupported, happly]

/-- A file of the student that the course deleted goes, unless the student changed it or it is not synced. -/
theorem takes_of_not_remains {api : GitHubReads} {src : UpdateSource} {plan : CourseUpdatePlan} {t : UpdateTrees}
    (h : Planning api src plan) (ht : Reads api src plan t) {path : String} (hpresent : shaAt t.student path ≠ none)
    (hcourse : fileAt t.course path = none) (hremains : ¬ Remains t path) :
    Takes (supports plan) (shaAt t.base) (shaAt t.course) (shaAt t.student) path := by
  have hown : isCourseSyncPath path = true ∧ shaAt t.student path = shaAt t.base path := by
    by_contra hnot
    exact hremains ⟨hpresent, fun hsync heq => hnot ⟨hsync, heq⟩⟩
  have hne : shaAt t.base path ≠ shaAt t.course path := by
    rw [← hown.2, shaAt_eq_none.2 hcourse]
    exact hpresent
  rw [(h.planFor ht).takes_iff]
  obtain ⟨file, hmem, rfl⟩ := (h.planFor ht).exists_file hown.1 hne
  obtain ⟨_, _, hentry⟩ := h.entry ht file hmem
  rw [hcourse] at hentry
  exact ⟨file, hmem, rfl, (planEntry_none hentry).trans (judge_apply.2 ⟨hne, hown.2⟩)⟩

/-- What stays is not touched by the plan, when the course has no file there. -/
theorem remains_iff {api : GitHubReads} {src : UpdateSource} {plan : CourseUpdatePlan} {t : UpdateTrees}
    (h : Planning api src plan) (ht : Reads api src plan t) {path : String} (hpresent : shaAt t.student path ≠ none)
    (hcourse : fileAt t.course path = none) : Remains t path ↔ t.merged plan path = shaAt t.student path := by
  rw [merged_eq (h.planFor ht)]
  have hnone : shaAt t.course path = none := shaAt_eq_none.2 hcourse
  constructor
  · intro hremains
    refine threeWay_of_not_takes fun htakes => ?_
    obtain ⟨file, hmem, rfl, -⟩ := ((h.planFor ht).takes_iff path).1 htakes
    exact hremains.own ((h.planFor ht).changed hmem).1 htakes.2.2
  · intro hmerged
    by_contra hremains
    rw [threeWay_of_takes (takes_of_not_remains h ht hpresent hcourse hremains), hnone] at hmerged
    exact hpresent hmerged.symm

/-- No collision spoils the plan exactly when those there are come from files that the student deleted. -/
theorem Planning.harmless_iff {api : GitHubReads} {src : UpdateSource} {plan : CourseUpdatePlan} {t : UpdateTrees}
    (h : Planning api src plan) (ht : Reads api src plan t) (hcourse : WellFormed (shaAt t.course))
    (hstudent : WellFormed (shaAt t.student)) :
    Harmless t plan ↔ OnlyDeletedCollide (api.readBlobBase64 src.installationId src.sourceRef) t := by
  have hplan := h.planFor ht
  -- What collides with a course file is no file of the course, and the student has no file in its place.
  have hother : ∀ path file own, fileAt t.course path = some file → Collide path own →
      fileAt t.course own = none := by
    intro path file own hfile hcollide
    by_contra hown
    exact hcourse.not_collide (shaAt_ne_none.2 ⟨file, hfile⟩) (fun hnone => hown (shaAt_eq_none.1 hnone)) hcollide
  have habsent : ∀ path own, shaAt t.student own ≠ none → Collide path own → shaAt t.student path = none := by
    intro path own hown hcollide
    by_contra hpath
    exact hstudent.not_collide hpath hown hcollide
  constructor
  · intro hharmless path file hfile hsync hne own hremains hcollide
    obtain ⟨entry, hmem, rfl⟩ := hplan.exists_file hsync hne
    have hwrite : entry.operation = .write := by
      rw [(hplan.planned entry hmem).operation, shaAt, hfile]
      rfl
    have hmerged := (remains_iff h ht hremains.present (hother _ _ _ hfile hcollide)).1 hremains
    have hconflict := hharmless.reported entry hmem hwrite own hremains.present hmerged hcollide
    have hjudge : judge t entry.path = .conflict := by
      rcases (hplan.planned entry hmem).disposition with hu | hj
      · rw [hconflict] at hu
        cases hu
      · rw [← hj, hconflict]
    obtain ⟨_, _, hentry⟩ := h.entry ht entry hmem
    rw [hfile, hjudge] at hentry
    refine ⟨?_, (planEntry_some hentry (by simp) (by simp)).1 hconflict⟩
    rw [← habsent entry.path own hremains.present hcollide]
    exact (judge_conflict_iff.1 hjudge).2.symm
  · intro honly
    refine ⟨?_, fun path _ hne => hplan.safeMerge.keeps path hne, ?_⟩
    · rw [merged_eq hplan]
      refine threeWay_free hcourse hstudent fun path own htakes hfile hstay hown hcollide => ?_
      obtain ⟨entry, hmem, rfl, -⟩ := (hplan.takes_iff path).1 htakes
      obtain ⟨file, hfile⟩ := shaAt_ne_none.1 hfile
      have hremains : Remains t own := by
        by_contra hnot
        exact hstay (takes_of_not_remains h ht hown (hother _ _ _ hfile hcollide) hnot)
      obtain ⟨hsync, hne⟩ := hplan.changed hmem
      -- The plan takes over only what the student left as it was, here nothing at all.
      refine (honly _ file hfile hsync hne own hremains hcollide).1 ?_
      rw [← htakes.2.2, habsent _ own hown hcollide]
    · intro entry hmem hwrite own hown hmerged hcollide
      have hpresent := (hplan.planned entry hmem).operation.1 hwrite
      obtain ⟨file, hfile⟩ := shaAt_ne_none.1 (Option.isSome_iff_ne_none.1 hpresent)
      obtain ⟨hsync, hne⟩ := hplan.changed hmem
      have hremains := (remains_iff h ht hown (hother _ _ _ hfile hcollide)).2 hmerged
      obtain ⟨hbase, hsend⟩ := honly _ file hfile hsync hne own hremains hcollide
      have hnone := habsent _ own hown hcollide
      have hjudge : judge t entry.path = .conflict := by
        rw [judge_conflict_iff, hnone]
        exact ⟨shaAt_ne_none.2 ⟨file, hfile⟩, hbase.symm⟩
      obtain ⟨_, _, hentry⟩ := h.entry ht entry hmem
      rw [hfile, hjudge] at hentry
      exact (planEntry_some hentry (by simp) (by simp)).2 hsend

/-! ## The status -/

/-- The student's tree already agrees with the course's on every path that the course changed. -/
def Agrees (t : UpdateTrees) : Prop :=
  ∀ path, isCourseSyncPath path = true → shaAt t.base path ≠ shaAt t.course path →
    shaAt t.student path = shaAt t.course path

/-- None of the changed course files is larger than an update may carry. -/
def WithinSize (t : UpdateTrees) : Prop :=
  ∀ path file, isCourseSyncPath path = true → shaAt t.base path ≠ shaAt t.course path →
    fileAt t.course path = some file → file.size ≤ maxUpdateFileBytes

theorem planUpdate_status {api : GitHubReads} {src : UpdateSource} {plan : CourseUpdatePlan}
    (h : planUpdate api src = .ok plan) : plan.baseSha = src.baseSha ∧
      (plan.baseSha ≠ some plan.courseSha →
        (plan.status = .upToDate ↔ ∀ file ∈ plan.files, file.disposition = .alreadyApplied)) := by
  unfold planUpdate at h
  obtain ⟨courseHead, -, h⟩ := bind_ok_iff.1 h
  obtain ⟨studentHead, -, h⟩ := bind_ok_iff.1 h
  obtain ⟨courseSha, -, h⟩ := bind_ok_iff.1 h
  obtain ⟨studentSha, -, h⟩ := bind_ok_iff.1 h
  obtain ⟨commit, -, h⟩ := bind_ok_iff.1 h
  simp only at h
  split at h
  · rename_i heq
    cases h
    exact ⟨rfl, fun hbase => absurd heq hbase⟩
  · obtain ⟨courseTree, -, h⟩ := bind_ok_iff.1 h
    obtain ⟨studentTree, -, h⟩ := bind_ok_iff.1 h
    obtain ⟨baseTree, -, h⟩ := bind_ok_iff.1 h
    obtain ⟨course, -, h⟩ := bind_ok_iff.1 h
    obtain ⟨student, -, h⟩ := bind_ok_iff.1 h
    obtain ⟨base, -, h⟩ := bind_ok_iff.1 h
    obtain ⟨_, -, h⟩ := bind_ok_iff.1 h
    obtain ⟨files, -, h⟩ := bind_ok_iff.1 h
    cases h
    refine ⟨rfl, fun _ => ?_⟩
    show (if files.any (·.disposition ≠ .alreadyApplied) then UpdateStatus.updateAvailable else .upToDate) = _ ↔ _
    split
    · rename_i hany
      obtain ⟨file, hmem, hfile⟩ := List.any_eq_true.1 hany
      refine ⟨fun h => (by cases h), fun hall => ?_⟩
      exact absurd (hall file hmem) (by simpa using hfile)
    · rename_i hany
      refine ⟨fun _ file hmem => ?_, fun _ => rfl⟩
      by_contra hfile
      exact hany (List.any_eq_true.2 ⟨file, hmem, by simpa using hfile⟩)

/-- Up to date is what agrees and is of the right size. -/
theorem planUpdate_upToDate {api : GitHubReads} {src : UpdateSource} {plan : CourseUpdatePlan} {t : UpdateTrees}
    (h : planUpdate api src = .ok plan) (hbase : plan.baseSha ≠ some plan.courseSha) (ht : Reads api src plan t) :
    plan.status = .upToDate ↔ Agrees t ∧ WithinSize t := by
  have hplanning := planUpdate_ok h
  have hplan := hplanning.planFor ht
  rw [(planUpdate_status h).2 hbase]
  constructor
  · intro hall
    have hentry : ∀ path, isCourseSyncPath path = true → shaAt t.base path ≠ shaAt t.course path →
        judge t path = .alreadyApplied ∧ ∀ file, fileAt t.course path = some file → file.size ≤ maxUpdateFileBytes := by
      intro path hsync hne
      obtain ⟨file, hmem, rfl⟩ := hplan.exists_file hsync hne
      obtain ⟨_, _, hfile⟩ := hplanning.entry ht file hmem
      exact (planEntry_applied_iff hfile).1 (hall file hmem)
    refine ⟨fun path hsync hne => judge_alreadyApplied (hentry path hsync hne).1, ?_⟩
    exact fun path file hsync hne => (hentry path hsync hne).2 file
  · rintro ⟨hagrees, hsize⟩ file hmem
    obtain ⟨_, _, hfile⟩ := hplanning.entry ht file hmem
    obtain ⟨hsync, hne⟩ := hplan.changed hmem
    rw [planEntry_applied_iff hfile, judge_alreadyApplied_iff]
    exact ⟨hagrees _ hsync hne, fun entry => hsize _ entry hsync hne⟩

/-! ## What `courseUpdate` reports -/

/-- A plan is harmless for well-formed trees exactly when every changed course file that needs the place
of a file that stays is one that the student had deleted, and can be sent. -/
theorem courseUpdate_harmless_iff {api : GitHubReads} {rows : Rows} {user : UserId} {enrollmentId : EnrollmentId}
    {plan : CourseUpdatePlan} (h : courseUpdate api rows user enrollmentId = .ok plan) :
    ∃ src, (loadContext rows user enrollmentId >>= updateSource) = .ok src ∧
      (src.baseSha ≠ some plan.courseSha → ∃ t, Reads api src plan t) ∧
      ∀ t, Reads api src plan t → WellFormed (shaAt t.course) → WellFormed (shaAt t.student) →
        (Harmless t plan ↔ OnlyDeletedCollide (api.readBlobBase64 src.installationId src.sourceRef) t) := by
  unfold courseUpdate at h
  obtain ⟨ctx, hctx, h⟩ := bind_ok_iff.1 h
  obtain ⟨src, hsrc, h⟩ := bind_ok_iff.1 h
  have hplan := planUpdate_ok h
  refine ⟨src, bind_ok_iff.2 ⟨ctx, hctx, hsrc⟩, ?_, fun t ht => hplan.harmless_iff ht⟩
  intro hne
  rcases hplan.files with ⟨heq, -, -⟩ | ⟨-, t, ht⟩
  · exact absurd heq hne
  · exact ⟨t, ht.reads⟩

namespace Example

/-- The course's repository before and after week 2, and the student's own. -/
def hosting (t : UpdateTrees) : GitHubReads where
  getBranchHead := fun _ ref _ => .ok (some (if ref = starter then "week2" else "own"))
  getCommit := fun _ _ _ => .ok (some ⟨"Livetich: class update - Week 2"⟩)
  listTree := fun _ ref sha => .ok (some ⟨
    if ref = starter then if sha = "week1" then t.base else t.course else t.student, false⟩)
  readBlobBase64 := fun _ _ _ => .ok (some ⟨"YXBw", 12⟩)

theorem reads_hosting (t : UpdateTrees) {plan : CourseUpdatePlan} (hcourse : plan.courseSha = "week2")
    (hstudent : plan.studentSha = "own") : Reads (hosting t) source plan t := by
  refine ⟨⟨false, ?_⟩, ⟨false, ?_⟩, ⟨false, rfl⟩⟩
  · rw [hcourse]
    rfl
  · rw [hstudent]
    rfl

/-- The student wrote notes in a file `docs`, and the course adds a folder of that name. -/
def folders : UpdateTrees where
  base := [⟨"app.js", 10, "a1"⟩]
  course := [⟨"app.js", 10, "a1"⟩, ⟨"docs/readme.md", 12, "d1"⟩]
  student := [⟨"app.js", 10, "a1"⟩, ⟨"docs", 4, "n1"⟩]

def week2Plan (files : List CourseUpdateFile) : CourseUpdatePlan where
  status := .updateAvailable
  courseRepository := "acme-school/fe-starter"
  checkpointTitle := "Week 2"
  baseSha := some "week1"
  courseSha := "week2"
  studentSha := "own"
  files := files

/-- The student made a folder of the file `docs`, which the course changed. -/
def renamed : UpdateTrees where
  base := [⟨"docs", 10, "d1"⟩]
  course := [⟨"docs", 12, "d2"⟩]
  student := [⟨"docs/mine.md", 4, "m1"⟩]

/-- The paths of a tree that is given as a list. -/
theorem wellFormed_of_list {files : List TreeEntry}
    (h : ∀ p ∈ files.map (·.path), ∀ q ∈ files.map (·.path), ¬ Inside p q) : WellFormed (shaAt files) := by
  intro p q hp hq
  obtain ⟨a, ha⟩ := Option.ne_none_iff_exists'.1 hp
  obtain ⟨b, hb⟩ := Option.ne_none_iff_exists'.1 hq
  exact h p (fileAt_path ha) q (fileAt_path hb)

end Example

open Example in
/-- The notes of the student become both a file and a folder. -/
theorem folders_collide : ∃ plan, courseUpdate (hosting folders) started "aisha" "e1" = .ok plan ∧
    WellFormed (shaAt folders.base) ∧ WellFormed (shaAt folders.course) ∧ WellFormed (shaAt folders.student) ∧
    plan.files = [⟨"docs/readme.md", .write, .apply, some "YXBw", some 12⟩] ∧
    ¬ WellFormed (folders.merged plan) := by
  refine ⟨week2Plan [⟨"docs/readme.md", .write, .apply, some "YXBw", some 12⟩], by decide,
    wellFormed_of_list (by decide), wellFormed_of_list (by decide), wellFormed_of_list (by decide), rfl, ?_⟩
  intro h
  exact h "docs" "docs/readme.md" (by decide) (by decide) (by decide)

open Example in
/-- Where the student had deleted the course's file, the collision is in conflict. -/
theorem renamed_harmless : ∃ plan, courseUpdate (hosting renamed) started "aisha" "e1" = .ok plan ∧
    plan.files.map (·.disposition) = [.conflict] ∧ Harmless renamed plan := by
  have hplan : courseUpdate (hosting renamed) started "aisha" "e1" =
      .ok (week2Plan [⟨"docs", .write, .conflict, some "YXBw", some 12⟩]) := by decide
  refine ⟨_, hplan, rfl, ?_⟩
  obtain ⟨src, hsrc, -, h⟩ := courseUpdate_harmless_iff hplan
  have heq : (loadContext started "aisha" "e1" >>= updateSource) = .ok source := by rfl
  rw [heq] at hsrc
  cases hsrc
  refine (h renamed (reads_hosting renamed rfl rfl) (wellFormed_of_list (by decide))
    (wellFormed_of_list (by decide))).2 ?_
  intro path file hfile _ _ _ _ _
  have hpath : path = "docs" := by simpa [renamed] using fileAt_path (shaAt_of_fileAt hfile)
  subst hpath
  cases hfile
  exact ⟨by decide, by decide, ⟨"YXBw", 12⟩, rfl, by decide⟩

/-- The status is honest exactly when, where the student agrees, none of the changed files is too large. -/
theorem courseUpdate_status_iff {api : GitHubReads} {rows : Rows} {user : UserId} {enrollmentId : EnrollmentId}
    {plan : CourseUpdatePlan} (h : courseUpdate api rows user enrollmentId = .ok plan)
    (hbase : plan.baseSha ≠ some plan.courseSha) :
    ∃ src, (loadContext rows user enrollmentId >>= updateSource) = .ok src ∧ (∃ t, Reads api src plan t) ∧
      ∀ t, Reads api src plan t → ((plan.status = .upToDate ↔ Agrees t) ↔ (Agrees t → WithinSize t)) := by
  unfold courseUpdate at h
  obtain ⟨ctx, hctx, h⟩ := bind_ok_iff.1 h
  obtain ⟨src, hsrc, h⟩ := bind_ok_iff.1 h
  have hne : src.baseSha ≠ some plan.courseSha := (planUpdate_status h).1 ▸ hbase
  rcases (planUpdate_ok h).files with ⟨heq, -, -⟩ | ⟨-, t, ht⟩
  · exact absurd heq hne
  · refine ⟨src, bind_ok_iff.2 ⟨ctx, hctx, hsrc⟩, ⟨t, ht.reads⟩, fun t ht => ?_⟩
    rw [planUpdate_upToDate h hbase ht]
    exact and_iff_left_iff_imp

namespace Example

/-- The student has the course's film clip already, which is larger than an update may carry. -/
def clip : UpdateTrees where
  base := []
  course := [⟨"clip.mp4", 6000000, "c1"⟩]
  student := [⟨"clip.mp4", 6000000, "c1"⟩]

end Example

open Example in
/-- The student has everything, and an update is still said to be there. -/
theorem clip_outstanding : ∃ plan, courseUpdate (hosting clip) started "aisha" "e1" = .ok plan ∧
    plan.baseSha ≠ some plan.courseSha ∧ Reads (hosting clip) source plan clip ∧ Agrees clip ∧
    plan.status = .updateAvailable := by
  refine ⟨week2Plan [⟨"clip.mp4", .write, .unsupported, none, none⟩], by decide, by decide,
    reads_hosting clip rfl rfl, ?_, rfl⟩
  intro path _ _
  rfl

open Example in
/-- The student lacks the new folder, and the update is there. -/
theorem folders_outstanding : ∃ plan, courseUpdate (hosting folders) started "aisha" "e1" = .ok plan ∧
    (plan.status = .upToDate ↔ Agrees folders) := by
  have hplan : courseUpdate (hosting folders) started "aisha" "e1" =
      .ok (week2Plan [⟨"docs/readme.md", .write, .apply, some "YXBw", some 12⟩]) := by decide
  refine ⟨_, hplan, ?_⟩
  obtain ⟨src, hsrc, -, h⟩ := courseUpdate_status_iff hplan (by decide)
  have heq : (loadContext started "aisha" "e1" >>= updateSource) = .ok source := by rfl
  rw [heq] at hsrc
  cases hsrc
  refine (h folders (reads_hosting folders rfl rfl)).2 fun hagrees => ?_
  have hmissing := hagrees "docs/readme.md" (by decide) (by decide)
  exact absurd hmissing (by decide)

end Livetich.Workspace
