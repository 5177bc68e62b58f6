/-
Whose work is whose: the loop of `studentOwnFiles`, which the instructor's file browser and the AI reviewer share. Its
list and its count part the files that are kept at all, by what the starting code holds under their paths.
-/
import Mathlib.Logic.Function.Basic
import Livetich.Workspace.ReviewSource

namespace Livetich.Workspace.Own

/-! ## The loop -/

structure OwnedFile extends TreeEntry where
  status : OwnStatus
  deriving DecidableEq

structure Owned where
  own : List OwnedFile
  unchangedCount : Nat
  deriving DecidableEq

/-- `starting`: a later file under the same path overwrites an earlier one. -/
def starting (template : List TreeEntry) : String → Option String :=
  template.foldl (fun map f => Function.update map f.path (some f.sha)) fun _ => none

/-- One turn of the loop. -/
def visit (starting : String → Option String) (keep : TreeEntry → Bool) (r : Owned) (f : TreeEntry) : Owned :=
  if !keep f then r
  else
    match starting f.path with
    | none => { r with own := r.own ++ [⟨f, .added⟩] }
    | some was =>
      if was ≠ f.sha then { r with own := r.own ++ [⟨f, .modified⟩] }
      else { r with unchangedCount := r.unchangedCount + 1 }

def studentOwnFiles (student template : List TreeEntry) (keep : TreeEntry → Bool) : Owned :=
  student.foldl (visit (starting template) keep) ⟨[], 0⟩

/-! ## The starting code -/

/-- The starting code has a file under the path, and with the hash. -/
def Holds (template : List TreeEntry) (path sha : String) : Prop := ∃ t ∈ template, t.path = path ∧ t.sha = sha

/-- The starting code has nothing under the path of the file. -/
def Absent (template : List TreeEntry) (f : TreeEntry) : Prop := ∀ t ∈ template, t.path ≠ f.path

/-- The starting code has a file with other contents there. -/
def Changed (template : List TreeEntry) (f : TreeEntry) : Prop := ∃ t ∈ template, t.path = f.path ∧ t.sha ≠ f.sha

/-- The starting code has the same file. -/
def Same (template : List TreeEntry) (f : TreeEntry) : Prop := Holds template f.path f.sha

def Distinct (files : List TreeEntry) : Prop := (files.map (·.path)).Nodup

instance (template : List TreeEntry) (path sha : String) : Decidable (Holds template path sha) :=
  inferInstanceAs (Decidable (∃ t ∈ template, _))

instance (template : List TreeEntry) (f : TreeEntry) : Decidable (Absent template f) :=
  inferInstanceAs (Decidable (∀ t ∈ template, _))

instance (template : List TreeEntry) (f : TreeEntry) : Decidable (Changed template f) :=
  inferInstanceAs (Decidable (∃ t ∈ template, _))

instance (template : List TreeEntry) (f : TreeEntry) : Decidable (Same template f) :=
  inferInstanceAs (Decidable (Holds ..))

instance (files : List TreeEntry) : Decidable (Distinct files) := inferInstanceAs (Decidable (List.Nodup _))

/-- The loop's map is the one of a course update. -/
theorem starting_eq (template : List TreeEntry) : starting template = shaAt template := by
  induction template using List.reverseRecOn with
  | nil => rfl
  | append_singleton template f ih =>
    funext path
    unfold starting at ih ⊢
    rw [List.foldl_append, List.foldl_cons, List.foldl_nil, ih]
    unfold shaAt fileAt
    rw [List.reverse_append, List.reverse_singleton, List.singleton_append, List.find?_cons]
    by_cases hpath : path = f.path
    · rw [hpath, Function.update_self, beq_self_eq_true]
      rfl
    · rw [Function.update_of_ne hpath, beq_false_of_ne (Ne.symm hpath)]

theorem starting_eq_none {template : List TreeEntry} {f : TreeEntry} :
    starting template f.path = none ↔ Absent template f := by
  rw [starting_eq]
  unfold shaAt fileAt Absent
  rw [Option.map_eq_none_iff, List.find?_eq_none]
  simp

theorem starting_eq_some {template : List TreeEntry} (h : Distinct template) {path sha : String} :
    starting template path = some sha ↔ Holds template path sha := by
  rw [starting_eq]
  unfold shaAt
  rw [Option.map_eq_some_iff]
  constructor
  · rintro ⟨t, ht, hsha⟩
    exact ⟨t, List.mem_reverse.1 (List.mem_of_find?_eq_some ht), by simpa using List.find?_some ht, hsha⟩
  · rintro ⟨t, ht, rfl, rfl⟩
    cases hfound : fileAt template t.path with
    | none =>
      have hmiss := List.find?_eq_none.1 hfound t (List.mem_reverse.2 ht)
      simp at hmiss
    | some u =>
      have hu : u ∈ template := List.mem_reverse.1 (List.mem_of_find?_eq_some hfound)
      -- Paths are distinct, so what is found under the path is the file itself.
      have hpath : u.path = t.path := by simpa using List.find?_some hfound
      rw [List.inj_on_of_nodup_map h hu ht hpath]
      exact ⟨t, rfl, rfl⟩

/-- The map is what the starting code holds, in whatever order. -/
theorem starting_congr {template other : List TreeEntry} (h : Distinct template) (ho : Distinct other)
    (hsame : ∀ path sha, Holds template path sha ↔ Holds other path sha) : starting template = starting other := by
  funext path
  refine Option.ext fun sha => ?_
  rw [starting_eq_some h, starting_eq_some ho, hsame]

/-! ## One file -/

section Judged

variable {template : List TreeEntry} {f : TreeEntry}

theorem added_iff : ownStatus template f = some .added ↔ Absent template f := by
  unfold ownStatus
  rw [← starting_eq, ← starting_eq_none]
  cases starting template f.path with
  | none => simp
  | some was => simp

theorem modified_iff (h : Distinct template) : ownStatus template f = some .modified ↔ Changed template f := by
  have hchanged : Changed template f ↔ ∃ sha, starting template f.path = some sha ∧ sha ≠ f.sha := by
    simp only [starting_eq_some h]
    constructor
    · rintro ⟨t, ht, hpath, hsha⟩
      exact ⟨t.sha, ⟨t, ht, hpath, rfl⟩, hsha⟩
    · rintro ⟨_, ⟨t, ht, hpath, rfl⟩, hsha⟩
      exact ⟨t, ht, hpath, hsha⟩
  rw [hchanged]
  unfold ownStatus
  rw [← starting_eq]
  cases starting template f.path with
  | none => simp
  | some was => simp

theorem unchanged_iff (h : Distinct template) : ownStatus template f = none ↔ Same template f := by
  unfold ownStatus Same
  rw [← starting_eq, ← starting_eq_some h]
  cases starting template f.path with
  | none => simp
  | some was => simp

theorem own_iff (h : Distinct template) :
    (ownStatus template f).isSome = true ↔ Absent template f ∨ Changed template f := by
  rw [← added_iff, ← modified_iff h]
  rcases ownStatus template f with _ | _ | _ <;> simp

end Judged

/-! ## The run -/

theorem visit_eq (template : List TreeEntry) (keep : TreeEntry → Bool) (r : Owned) (f : TreeEntry) :
    visit (starting template) keep r f =
      if keep f then
        match ownStatus template f with
        | some status => { r with own := r.own ++ [⟨f, status⟩] }
        | none => { r with unchangedCount := r.unchangedCount + 1 }
      else r := by
  unfold visit ownStatus
  rw [starting_eq]
  cases keep f with
  | false => rfl
  | true =>
    cases shaAt template f.path with
    | none => rfl
    | some was => by_cases hwas : was = f.sha <;> simp [hwas]

/-- From any point on, the loop adds what is listed and counted of the files it still goes over. -/
theorem foldl_visit (template : List TreeEntry) (keep : TreeEntry → Bool) (student : List TreeEntry) (r : Owned) :
    student.foldl (visit (starting template) keep) r =
      ⟨r.own ++ (Workspace.studentOwnFiles student template keep).1.map fun o => ⟨o.1, o.2⟩,
        r.unchangedCount + (Workspace.studentOwnFiles student template keep).2⟩ := by
  induction student generalizing r with
  | nil => simp [Workspace.studentOwnFiles]
  | cons f student ih =>
    rw [List.foldl_cons, ih, visit_eq]
    unfold Workspace.studentOwnFiles
    rw [List.filter_cons]
    cases hkeep : keep f with
    | false => rfl
    | true =>
      cases hstatus : ownStatus template f with
      | none =>
        simp [hstatus]
        omega
      | some status => simp [hstatus]

/-- The loop lists and counts as the reviewer's source does. -/
theorem studentOwnFiles_eq (student template : List TreeEntry) (keep : TreeEntry → Bool) :
    studentOwnFiles student template keep =
      ⟨(Workspace.studentOwnFiles student template keep).1.map fun o => ⟨o.1, o.2⟩,
        (Workspace.studentOwnFiles student template keep).2⟩ := by
  unfold studentOwnFiles
  rw [foldl_visit, List.nil_append, Nat.zero_add]

/-! ## Whose work is whose -/

/-- The kept files that the starting code has under the same path and with the same hash. -/
def unchanged (student template : List TreeEntry) (keep : TreeEntry → Bool) : List TreeEntry :=
  student.filter fun f => keep f && decide (Same template f)

/-- A list of own files and a count that tell whose work is whose. -/
structure Parted (student template : List TreeEntry) (keep : TreeEntry → Bool) (r : Owned) : Prop where
  files : r.own.map (·.toTreeEntry) =
    student.filter fun f => keep f && decide (Absent template f ∨ Changed template f)
  added : ∀ o ∈ r.own, o.status = .added ↔ Absent template o.toTreeEntry
  modified : ∀ o ∈ r.own, o.status = .modified ↔ Changed template o.toTreeEntry
  parts : (r.own.map (·.toTreeEntry) ++ unchanged student template keep).Perm (student.filter keep)
  apart : ∀ o ∈ r.own, o.toTreeEntry ∉ unchanged student template keep
  counted : r.unchangedCount = (unchanged student template keep).length
  total : r.own.length + r.unchangedCount = (student.filter keep).length

/-- The files that a function of one file gives something for. -/
theorem map_filterMap_pair {α β : Type} (g : α → Option β) (l : List α) :
    (l.filterMap fun x => (g x).map (x, ·)).map (·.1) = l.filter fun x => (g x).isSome := by
  rw [List.map_filterMap, ← List.filterMap_eq_filter]
  refine List.filterMap_congr fun x _ => ?_
  cases hx : g x <;> simp [Option.guard, hx]

section Run

variable {student template : List TreeEntry} {keep : TreeEntry → Bool}

theorem own_files : (studentOwnFiles student template keep).own.map (·.toTreeEntry) =
    (student.filter keep).filter fun f => (ownStatus template f).isSome := by
  rw [studentOwnFiles_eq, List.map_map]
  exact map_filterMap_pair (ownStatus template) (student.filter keep)

theorem status_of_mem {o : OwnedFile} (ho : o ∈ (studentOwnFiles student template keep).own) :
    ownStatus template o.toTreeEntry = some o.status := by
  rw [studentOwnFiles_eq] at ho
  obtain ⟨⟨f, status⟩, hmem, rfl⟩ := List.mem_map.1 ho
  exact (mem_studentOwnFiles.1 hmem).2.2

theorem unchanged_eq (h : Distinct template) :
    unchanged student template keep = (student.filter keep).filter fun f => !(ownStatus template f).isSome := by
  unfold unchanged
  rw [List.filter_filter]
  refine List.filter_congr fun f _ => ?_
  have hsame : decide (Same template f) = !(ownStatus template f).isSome := by
    rw [Option.not_isSome, Bool.eq_iff_iff, decide_eq_true_iff, Option.isNone_iff_eq_none]
    exact (unchanged_iff h).symm
  rw [hsame, Bool.and_comm]

theorem studentOwnFiles_parted (h : Distinct template) :
    Parted student template keep (studentOwnFiles student template keep) := by
  have hparts : ((studentOwnFiles student template keep).own.map (·.toTreeEntry) ++
      unchanged student template keep).Perm (student.filter keep) := by
    rw [own_files, unchanged_eq h]
    exact List.filter_append_perm _ _
  have hcounted : (studentOwnFiles student template keep).unchangedCount =
      (unchanged student template keep).length := by
    rw [studentOwnFiles_eq, unchanged_eq h, ← List.countP_eq_length_filter]
    exact List.countP_congr fun f _ => by simp
  refine ⟨?_, fun o ho => ?_, fun o ho => ?_, hparts, fun o ho hmem => ?_, hcounted, ?_⟩
  · rw [own_files, List.filter_filter]
    refine List.filter_congr fun f _ => ?_
    rw [Bool.and_comm, Bool.eq_iff_iff, Bool.and_eq_true, Bool.and_eq_true, own_iff h, decide_eq_true_iff]
  · rw [← added_iff, status_of_mem ho, Option.some_inj]
  · rw [← modified_iff h, status_of_mem ho, Option.some_inj]
  · have hnone := (unchanged_iff h).2 (by simpa using (List.mem_filter.1 hmem).2 : _ ∧ Same template o.toTreeEntry).2
    rw [status_of_mem ho] at hnone
    cases hnone
  · rw [hcounted, ← hparts.length_eq, List.length_append, List.length_map]

/-- The starting code counts only by what it has under each path. -/
theorem studentOwnFiles_congr {other : List TreeEntry} (h : Distinct template) (ho : Distinct other)
    (hsame : ∀ path sha, Holds template path sha ↔ Holds other path sha) :
    studentOwnFiles student template keep = studentOwnFiles student other keep := by
  unfold studentOwnFiles
  rw [starting_congr h ho hsame]

/-- Without starting code all that is kept is the student's own. -/
theorem studentOwnFiles_nil :
    studentOwnFiles student [] keep = ⟨(student.filter keep).map fun f => ⟨f, .added⟩, 0⟩ := by
  have hadded : ∀ f, ownStatus [] f = some .added := fun f => added_iff.2 fun _ ht => absurd ht List.not_mem_nil
  rw [studentOwnFiles_eq]
  unfold Workspace.studentOwnFiles
  simp [hadded, Function.comp_def]

end Run

/-- The loop parts the files that are kept by what the starting code has under their paths, and by nothing else. -/
theorem whose_work (student : List TreeEntry) {template : List TreeEntry} (keep : TreeEntry → Bool)
    (h : Distinct template) :
    Parted student template keep (studentOwnFiles student template keep) ∧
      studentOwnFiles student [] keep = ⟨(student.filter keep).map fun f => ⟨f, .added⟩, 0⟩ ∧
      ∀ other, Distinct other → (∀ path sha, Holds template path sha ↔ Holds other path sha) →
        studentOwnFiles student other keep = studentOwnFiles student template keep :=
  ⟨studentOwnFiles_parted h, studentOwnFiles_nil, fun _ ho hsame => (studentOwnFiles_congr h ho hsame).symm⟩

/-- One file is new, one is edited, one is as it was handed out, and one is not looked at. -/
theorem one_of_each :
    let student : List TreeEntry :=
      [⟨"src/a.ts", 4, "a2"⟩, ⟨"src/b.ts", 4, "b1"⟩, ⟨"dist/c.js", 4, "c1"⟩, ⟨"src/d.ts", 4, "d1"⟩]
    let template : List TreeEntry := [⟨"src/b.ts", 4, "b1"⟩, ⟨"src/a.ts", 3, "a1"⟩]
    let keep (f : TreeEntry) : Bool := isStudentPath f.path
    Distinct template ∧
      studentOwnFiles student template keep =
        ⟨[⟨⟨"src/a.ts", 4, "a2"⟩, .modified⟩, ⟨⟨"src/d.ts", 4, "d1"⟩, .added⟩], 1⟩ ∧
      Parted student template keep (studentOwnFiles student template keep) ∧
      studentOwnFiles student template.reverse keep = studentOwnFiles student template keep := by
  intro student template keep
  have hdistinct : Distinct template := by decide
  have hwork := whose_work student keep hdistinct
  refine ⟨hdistinct, by decide, hwork.1, hwork.2.2 template.reverse (by decide) fun path sha => ?_⟩
  unfold Holds
  simp only [List.mem_reverse]

end Livetich.Workspace.Own
