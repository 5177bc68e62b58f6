/-
One student, one repository, over the whole history of an organization. A name is made of codes that
are plain, so it tells the codes and the number apart; but codes change and numbers come free, and an
existing repository of the name is opened to whoever has codes and number now. Nobody is given
another student's repository exactly when no student comes to have what another one had before.
-/
import Livetich.Workspace.Provision

namespace Livetich.Workspace

open Livetich.Courses (CreateBatchDto matchesCode isPlainCode PlainCodes createCourse_plain createBatch_plain
  updateCourse_plain)
open Livetich.Lib TransSys

/-! ## Whose repository it is -/

/-- Whoever is given a repository, as a collaborator or as an active workspace, is the student of the
organization that it was ever made for or given to. -/
def Separate (handed : List Handed) : Prop :=
  ∀ a ∈ handed, ∀ b ∈ handed, a.kind ≠ .created → a.organizationId = b.organizationId →
    (a.owner, a.name) = (b.owner, b.name) → a.studentId = b.studentId

instance (handed : List Handed) : Decidable (Separate handed) :=
  inferInstanceAs (Decidable (∀ a ∈ handed, ∀ b ∈ handed, a.kind ≠ .created → a.organizationId = b.organizationId →
    (a.owner, a.name) = (b.owner, b.name) → a.studentId = b.studentId))

/-- Another student of the organization once had these codes and this number. -/
def hadByOther (ctx : WorkspaceContext) (no : Nat) (h : Handed) : Bool :=
  h.organizationId == ctx.organizationId && h.key == ctx.key && h.no == no && h.studentId != ctx.studentId

/-- The repository that is opened by this step bears codes and a number that no other student had. -/
def opensOwn (s : State) : Event → Bool
  | .resume i reply =>
    match s.attempts.get i with
    | some (.running ctx (.granting no _ _)) => !(reply.outcome.reached && s.handed.any (hadByOther ctx no))
    | _ => true
  | _ => true

/-- Nobody has created a program or started a workspace; repositories there may be. -/
structure Initial (s : State) : Prop where
  courses : s.rows.courses = []
  enrollments : ∀ e, s.rows.enrollments.get e = none
  attempts : ∀ i, s.attempts.get i = none
  handed : s.handed = []

/-! ## What attempts and entries rest on -/

def PlainKey (programCode cohortCode : Option String) : Prop :=
  (∀ c ∈ programCode, isPlainCode c = true) ∧ ∀ c ∈ cohortCode, isPlainCode c = true

/-- What a stage goes on from: the repository exists, and has been opened to the student. -/
def Stage.Backed (s : State) (ctx : WorkspaceContext) : Stage → Prop
  | .granting _ repo _ => (s.repo ctx.connectionLogin repo.name).isSome
  | .saving no repo _ => handedFor ctx .granted no repo.name ∈ s.handed
  | _ => True

def Attempt.Sound (unicode : Unicode) (s : State) : Attempt → Prop
  | .connecting l => PlainKey (l.parentCourse.getD (l.course, l.courseCoding)).1.code l.course.code
  | .running ctx stage => PlainKey ctx.programCode ctx.cohortCode ∧ stage.Named unicode ctx ∧ stage.Backed s ctx

/-- An entry of the history is named after its codes and number, and its repository exists. -/
structure Handed.Sound (unicode : Unicode) (s : State) (h : Handed) : Prop where
  plain : PlainKey h.programCode h.cohortCode
  name : repositoryName unicode h.programCode h.cohortCode (some h.no) = .ok h.name
  there : (s.repo h.owner h.name).isSome
  granted : h.kind = .activated → { h with kind := .granted } ∈ s.handed

structure Sound (unicode : Unicode) (s : State) : Prop where
  courses : PlainCodes s.rows.courses
  attempts : ∀ i a, s.attempts.get i = some a → a.Sound unicode s
  handed : ∀ h ∈ s.handed, h.Sound unicode s

theorem initial_sound {unicode : Unicode} {s : State} (h : Initial s) : Sound unicode s := by
  refine ⟨fun c hc => ?_, fun i a ha => ?_, fun m hm => ?_⟩
  · rw [h.courses] at hc
    cases hc
  · rw [h.attempts] at ha
    cases ha
  · rw [h.handed] at hm
    cases hm

/-- What a later state has of repositories and entries, it adds to. -/
structure Adds (s t : State) : Prop where
  repos : ∀ owner name, (s.repo owner name).isSome → (t.repo owner name).isSome
  handed : ∀ h ∈ s.handed, h ∈ t.handed

theorem Adds.of_eq {s t : State} (hrepos : t.repos = s.repos) (hhanded : t.handed = s.handed) : Adds s t := by
  refine ⟨fun owner name h => ?_, fun h hm => hhanded ▸ hm⟩
  unfold State.repo
  rw [hrepos]
  exact h

theorem Adds.trans {s t u : State} (h : Adds s t) (h' : Adds t u) : Adds s u :=
  ⟨fun owner name hr => h'.repos owner name (h.repos owner name hr), fun m hm => h'.handed m (h.handed m hm)⟩

theorem Attempt.Sound.mono {unicode : Unicode} {s t : State} {a : Attempt} (h : a.Sound unicode s) (hadds : Adds s t) :
    a.Sound unicode t := by
  cases a with
  | connecting l => exact h
  | running ctx stage =>
    refine ⟨h.1, h.2.1, ?_⟩
    cases stage with
    | granting no repo base => exact hadds.repos _ _ h.2.2
    | saving no repo base => exact hadds.handed _ h.2.2
    | _ => trivial

theorem Handed.Sound.mono {unicode : Unicode} {s t : State} {h : Handed} (hs : h.Sound unicode s) (hadds : Adds s t) :
    h.Sound unicode t :=
  ⟨hs.plain, hs.name, hadds.repos _ _ hs.there, fun hk => hadds.handed _ (hs.granted hk)⟩

/-- Entries of one name in one place have one key and number. -/
theorem same_key {unicode : Unicode} {s : State} {a b : Handed} (ha : a.Sound unicode s) (hb : b.Sound unicode s)
    (h : (a.owner, a.name) = (b.owner, b.name)) : a.key = b.key ∧ a.no = b.no := by
  obtain ⟨howner, hname⟩ := Prod.mk.injEq .. ▸ h
  have hbname := hb.name
  rw [← hname] at hbname
  obtain ⟨hprogram, hcohort, hno⟩ :=
    repositoryName_inj ha.plain.1 ha.plain.2 hb.plain.1 hb.plain.2 ha.name hbname
  refine ⟨?_, Option.some.inj hno⟩
  unfold Handed.key
  rw [howner, hprogram, hcohort]

/-- Entries of one key and number have one name in one place. -/
theorem same_name {unicode : Unicode} {s : State} {a b : Handed} (ha : a.Sound unicode s) (hb : b.Sound unicode s)
    (hkey : a.key = b.key) (hno : a.no = b.no) : (a.owner, a.name) = (b.owner, b.name) := by
  obtain ⟨howner, hprogram, hcohort⟩ : a.owner = b.owner ∧ a.programCode = b.programCode ∧
      a.cohortCode = b.cohortCode := by
    simpa [Handed.key] using hkey
  have haname := ha.name
  rw [hprogram, hcohort, hno] at haname
  rw [howner, Except.ok.inj (haname.symm.trans hb.name)]

/-! ## What the steps keep -/

theorem loaded_plain {rows : Rows} {user : UserId} {e : EnrollmentId} {l : LoadedEnrollment}
    (hcourses : PlainCodes rows.courses) (h : loadEnrollment rows user e = .ok l) :
    PlainKey (l.parentCourse.getD (l.course, l.courseCoding)).1.code l.course.code := by
  obtain ⟨row, course, -, hcourse, -, rfl⟩ := loadEnrollment_ok h
  have hown := hcourses course (List.mem_of_find?_eq_some hcourse)
  refine ⟨?_, hown⟩
  cases hparent : course.parentCourseId.bind rows.course with
  | none => exact hown
  | some p =>
    obtain ⟨id, -, hp⟩ := Option.bind_eq_some_iff.1 hparent
    exact hcourses p (List.mem_of_find?_eq_some hp)

/-- A repository that has just been made is there. -/
theorem created_there (s : State) (repo : Repo) (entry : Handed) :
    ((s.write (.created repo entry)).repo repo.owner repo.name).isSome := by
  unfold State.repo
  rw [List.find?_isSome]
  exact ⟨repo, List.mem_cons_self, by simp⟩

theorem write_adds (s : State) (w : Write) : Adds s (s.write w) := by
  refine ⟨fun owner name => write_repo w, fun h hm => ?_⟩
  cases w with
  | created repo entry => exact List.mem_cons_of_mem _ hm
  | granted entry => exact List.mem_cons_of_mem _ hm
  | activated id repo branch base entry => exact List.mem_cons_of_mem _ hm
  | _ => exact hm

theorem next_adds (s : State) (i : Nat) (n : Next) : Adds s (s.next i n) :=
  Adds.of_eq (next_repos s i n) (next_handed s i n)

theorem nameStage_backed (unicode : Unicode) (s : State) (ctx : WorkspaceContext) (no : Nat) :
    (nameStage unicode ctx no).Backed s ctx := by
  unfold nameStage
  cases repositoryName unicode ctx.programCode ctx.cohortCode (some no) <;> trivial

/-- A start opens a repository that is there, and records one that it has opened. -/
theorem provisionStep_backed {unicode : Unicode} {s : State} {ctx : WorkspaceContext} {reply : Reply}
    {stage after : Stage}
    (h : (provisionStep unicode s ctx reply stage).2 = .goes (.running ctx after)) :
    after.Backed (s.write (provisionStep unicode s ctx reply stage).1) ctx := by
  cases stage with
  | upserting =>
    simp only [provisionStep] at h ⊢
    split at h <;> cases h
    trivial
  | claiming =>
    simp only [provisionStep] at h ⊢
    split at h <;> cases h
    cases ctx.no with
    | none => trivial
    | some no => exact nameStage_backed unicode _ ctx no
  | counting attempt =>
    cases h
    trivial
  | numbering attempt next =>
    simp only [provisionStep] at h ⊢
    split at h
    · cases h
      trivial
    · rename_i e _
      by_cases htaken : s.rows.noTaken ctx.enrollmentId e.courseId next = true
      · rw [if_pos htaken] at h
        cases h
        by_cases hlast : attempt + 1 < allocationAttempts
        · rw [if_pos hlast]
          trivial
        · rw [if_neg hlast]
          trivial
      · rw [if_neg htaken] at h
        cases h
        exact nameStage_backed unicode _ ctx next
  | looking no name =>
    simp only [provisionStep] at h ⊢
    by_cases houtcome : reply.outcome = .answered
    · rw [if_pos houtcome] at h ⊢
      cases hrepo : s.repo ctx.connectionLogin name with
      | some repo =>
        rw [hrepo] at h
        cases h
        show (s.repo ctx.connectionLogin repo.name).isSome = true
        rw [(repo_found hrepo).2, hrepo]
        rfl
      | none =>
        rw [hrepo] at h
        cases h
        simp only
        split <;> trivial
    · rw [if_neg houtcome] at h
      cases h
      trivial
  | heading no name =>
    cases h
    split <;> trivial
  | creating no name base =>
    simp only [provisionStep] at h ⊢
    by_cases hcreated : reply.outcome.reached = true ∧ s.repo ctx.connectionLogin name = none
    · rw [if_pos hcreated] at h ⊢
      cases h
      split
      · exact created_there s _ _
      · trivial
    · rw [if_neg hcreated] at h
      cases h
      trivial
  | granting no repo base =>
    simp only [provisionStep] at h ⊢
    by_cases hreached : reply.outcome.reached = true
    · rw [if_pos hreached] at h ⊢
      cases h
      split
      · exact List.mem_cons_self
      · trivial
    · rw [if_neg hreached] at h
      cases h
      trivial
  | saving no repo base =>
    simp only [provisionStep] at h ⊢
    split at h <;> cases h
    trivial
  | failing reason =>
    simp only [provisionStep] at h
    split at h <;> cases h

/-- The entry that a write adds to the history. -/
def Write.entry : Write → Option Handed
  | .created _ entry | .granted entry | .activated _ _ _ _ entry => some entry
  | _ => none

theorem write_handed (s : State) (w : Write) : (s.write w).handed = w.entry.toList ++ s.handed := by
  cases w <;> rfl

/-- What a write adds is sound. -/
theorem entry_sound {unicode : Unicode} {s : State} {ctx : WorkspaceContext} {reply : Reply} {stage : Stage} {w : Write}
    {entry : Handed} (hfrom : w.From s ctx reply stage) (hentry : w.entry = some entry)
    (hsound : (Attempt.running ctx stage).Sound unicode s) (hs : ∀ h ∈ s.handed, h.Sound unicode s) :
    entry.Sound unicode (s.write w) := by
  obtain ⟨hplain, hnamed, hbacked⟩ := hsound
  cases w with
  | created repo new =>
    obtain ⟨no, name, base, rfl, -, howner, rfl, rfl⟩ := hfrom
    cases hentry
    refine ⟨hplain, hnamed, ?_, fun hk => (by cases hk)⟩
    have hthere := created_there s repo (handedFor ctx .created no repo.name)
    rw [howner] at hthere
    exact hthere
  | granted new =>
    obtain ⟨no, repo, base, rfl, -, rfl⟩ := hfrom
    cases hentry
    exact ⟨hplain, hnamed.1, hbacked, fun hk => (by cases hk)⟩
  | activated id repo branch base new =>
    obtain ⟨-, no, rfl, rfl⟩ := hfrom
    cases hentry
    exact ⟨hplain, hnamed.1, (hs _ hbacked).there, fun _ => List.mem_cons_of_mem _ hbacked⟩
  | nothing => cases hentry
  | upserted id => cases hentry
  | claimed id => cases hentry
  | numbered id no => cases hentry
  | failed id reason => cases hentry

theorem wrote_sound {unicode : Unicode} {s : State} {i : Nat} {ctx : WorkspaceContext} {reply : Reply} {stage : Stage}
    (hs : Sound unicode s) (hget : s.attempts.get i = some (.running ctx stage)) :
    Sound unicode ((s.write (provisionStep unicode s ctx reply stage).1).next i
      (provisionStep unicode s ctx reply stage).2) := by
  have hfrom := provisionStep_from unicode s ctx reply stage
  have hattempt := hs.attempts i _ hget
  have hadds := (write_adds s (provisionStep unicode s ctx reply stage).1).trans
    (next_adds _ i (provisionStep unicode s ctx reply stage).2)
  refine ⟨?_, fun j a ha => ?_, fun m hm => ?_⟩
  · rw [next_rows, write_courses]
    exact hs.courses
  · rcases next_attempts ha with hgoes | ha
    · obtain ⟨after, rfl, hafter⟩ := provisionStep_goes hgoes
      have hnow : (Attempt.running ctx after).Sound unicode (s.write (provisionStep unicode s ctx reply stage).1) :=
        ⟨hattempt.1, hafter.named hattempt.2.1, provisionStep_backed hgoes⟩
      exact hnow.mono (next_adds _ _ _)
    · rw [write_attempts] at ha
      exact (hs.attempts j a ha).mono hadds
  · rw [next_handed, write_handed, List.mem_append, Option.mem_toList] at hm
    rcases hm with hm | hm
    · exact (entry_sound hfrom hm hattempt hs.handed).mono (next_adds _ _ _)
    · exact (hs.handed m hm).mono hadds

/-- A step keeps what attempts and entries rest on, whatever is requested. -/
theorem step_sound {unicode : Unicode} {s s' : State} {ev : Event} (hs : Sound unicode s)
    (h : step unicode s ev = some s') : Sound unicode s' := by
  have hkept : ∀ {t : State}, PlainCodes t.rows.courses → t.repos = s.repos → t.handed = s.handed →
      (∀ i a, t.attempts.get i = some a → s.attempts.get i = some a ∨ a.Sound unicode s) → Sound unicode t := by
    intro t hcourses hrepos hhanded hattempts
    have hadds := Adds.of_eq hrepos hhanded
    refine ⟨hcourses, fun i a ha => ?_, fun m hm => ?_⟩
    · rcases hattempts i a ha with ha | ha
      · exact (hs.attempts i a ha).mono hadds
      · exact ha.mono hadds
    · rw [hhanded] at hm
      exact (hs.handed m hm).mono hadds
  have hsame : ∀ i a, s.attempts.get i = some a → s.attempts.get i = some a ∨ a.Sound unicode s :=
    fun i a ha => .inl ha
  have henrols : Enrols s s' → Sound unicode s' := by
    rintro ⟨id, c, u, -, rfl⟩
    exact hkept hs.courses rfl rfl hsame
  cases ev with
  | createCourse env user dto =>
    unfold step at h
    dsimp only at h
    split at h
    · rename_i hcode
      obtain ⟨course, hcourse, rfl⟩ := Option.map_eq_some_iff.1 h
      have hmatches := (Option.all_eq_true _ _).1 (Bool.and_eq_true_iff.1 hcode).1
      exact hkept (createCourse_plain (toOption_eq_some.1 hcourse) hmatches hs.courses) rfl rfl hsame
    · cases h
  | createBatch env user programId dto =>
    unfold step at h
    dsimp only at h
    split at h
    · rename_i hcode
      obtain ⟨course, hcourse, rfl⟩ := Option.map_eq_some_iff.1 h
      have hmatches := (Option.all_eq_true _ _).1 (Bool.and_eq_true_iff.1 hcode).1
      exact hkept (createBatch_plain (toOption_eq_some.1 hcourse) hmatches hs.courses) rfl rfl hsame
    · cases h
  | updateCourse env user id dto =>
    unfold step at h
    dsimp only at h
    split at h
    · rename_i hcode
      obtain ⟨⟨db, mails⟩, hcourse, rfl⟩ := Option.map_eq_some_iff.1 h
      have hmatches := (Option.all_eq_true _ _).1 hcode
      exact hkept (updateCourse_plain (toOption_eq_some.1 hcourse) hmatches hs.courses) rfl rfl hsame
    · cases h
  | enroll user courseId id => exact henrols (enrolled_enrols h fun _ => enroll_row)
  | enrollStudent user courseId studentId id => exact henrols (enrolled_enrols h fun _ => enrollStudent_row)
  | redeemInvite courseId studentId id => exact henrols (enrolled_enrols h fun _ => redeemInvite_row)
  | unenroll studentId courseId =>
    cases h
    exact hkept hs.courses rfl rfl hsame
  | configure settings =>
    cases h
    exact hkept hs.courses rfl rfl hsame
  | tick ms =>
    cases h
    exact hkept hs.courses rfl rfl hsame
  | start i user enrollmentId =>
    unfold step at h
    dsimp only at h
    split at h
    · cases h
    · cases hload : loadEnrollment s.rows user enrollmentId with
      | error err =>
        rw [hload] at h
        cases h
        exact hs
      | ok l =>
        rw [hload] at h
        cases h
        refine hkept hs.courses rfl rfl fun j a ha => ?_
        rcases Pool.get_put_cases ha with ⟨-, hl⟩ | ⟨-, ha⟩
        · cases hl
          exact .inr (loaded_plain hs.courses hload)
        · exact .inl ha
  | resume i reply =>
    obtain ⟨a, ha, rfl⟩ := Option.map_eq_some_iff.1 h
    cases a with
    | connecting l =>
      have hl := hs.attempts i _ ha
      cases hanswer : (l.context (s.rows.connectionOf l.course)).answer with
      | some view =>
        simp only [Attempt.step, hanswer]
        refine hkept hs.courses rfl rfl fun j b hb => ?_
        rcases Pool.get_put_cases hb with ⟨-, hnone⟩ | ⟨-, hb⟩
        · cases hnone
        · exact .inl hb
      | none =>
        simp only [Attempt.step, hanswer]
        refine hkept hs.courses rfl rfl fun j b hb => ?_
        rcases Pool.get_put_cases hb with ⟨-, hnew⟩ | ⟨-, hb⟩
        · cases hnew
          exact .inr ⟨hl, trivial, trivial⟩
        · exact .inl hb
    | running ctx stage => exact wrote_sound hs ha
  | crash i =>
    obtain ⟨a, -, rfl⟩ := Option.map_eq_some_iff.1 h
    refine hkept hs.courses rfl rfl fun j b hb => ?_
    rcases Pool.get_put_cases hb with ⟨-, hnone⟩ | ⟨-, hb⟩
    · cases hnone
    · exact .inl hb

/-! ## What the history grows by -/

theorem step_handed {unicode : Unicode} {s s' : State} {ev : Event} (h : step unicode s ev = some s') :
    s'.handed = s.handed ∨ ∃ i reply ctx stage, ev = .resume i reply ∧
      s.attempts.get i = some (.running ctx stage) ∧
      s'.handed = (provisionStep unicode s ctx reply stage).1.entry.toList ++ s.handed := by
  have henrols : Enrols s s' → s'.handed = s.handed := by
    rintro ⟨id, c, u, -, rfl⟩
    rfl
  cases ev with
  | createCourse env user dto =>
    unfold step at h
    dsimp only at h
    split at h
    · obtain ⟨course, -, rfl⟩ := Option.map_eq_some_iff.1 h
      exact .inl rfl
    · cases h
  | createBatch env user programId dto =>
    unfold step at h
    dsimp only at h
    split at h
    · obtain ⟨course, -, rfl⟩ := Option.map_eq_some_iff.1 h
      exact .inl rfl
    · cases h
  | updateCourse env user id dto =>
    unfold step at h
    dsimp only at h
    split at h
    · obtain ⟨r, -, rfl⟩ := Option.map_eq_some_iff.1 h
      exact .inl rfl
    · cases h
  | enroll user courseId id => exact .inl (henrols (enrolled_enrols h fun _ => enroll_row))
  | enrollStudent user courseId studentId id => exact .inl (henrols (enrolled_enrols h fun _ => enrollStudent_row))
  | redeemInvite courseId studentId id => exact .inl (henrols (enrolled_enrols h fun _ => redeemInvite_row))
  | unenroll studentId courseId => cases h; exact .inl rfl
  | configure settings => cases h; exact .inl rfl
  | tick ms => cases h; exact .inl rfl
  | start i user enrollmentId =>
    unfold step at h
    dsimp only at h
    split at h
    · cases h
    · split at h <;> cases h
      · exact .inl rfl
      · exact .inl rfl
  | resume i reply =>
    obtain ⟨a, ha, rfl⟩ := Option.map_eq_some_iff.1 h
    cases a with
    | connecting l => exact .inl (next_handed _ _ _)
    | running ctx stage =>
      refine .inr ⟨i, reply, ctx, stage, rfl, ha, ?_⟩
      show (State.next _ _ _).handed = _
      rw [next_handed]
      exact write_handed _ _
  | crash i =>
    obtain ⟨a, -, rfl⟩ := Option.map_eq_some_iff.1 h
    exact .inl rfl

theorem Separate.of_subset {handed more : List Handed} (h : Separate more) (hsub : ∀ m ∈ handed, m ∈ more) :
    Separate handed :=
  fun a ha b hb => h a (hsub a ha) b (hsub b hb)

theorem step_grows {unicode : Unicode} {s s' : State} {ev : Event} (h : step unicode s ev = some s') :
    ∀ m ∈ s.handed, m ∈ s'.handed := by
  intro m hm
  rcases step_handed h with heq | ⟨_, _, _, _, -, -, heq⟩
  · rw [heq]
    exact hm
  · rw [heq]
    exact List.mem_append_right _ hm

/-- A new entry that agrees with every earlier one about its student keeps the history separate. -/
theorem separate_cons {handed : List Handed} {m : Handed} (h : Separate handed)
    (hnew : ∀ b ∈ handed, m.kind ≠ .created ∨ b.kind ≠ .created → m.organizationId = b.organizationId →
      (m.owner, m.name) = (b.owner, b.name) → m.studentId = b.studentId) : Separate (m :: handed) := by
  intro a ha b hb hkind horg hname
  rcases List.mem_cons.1 ha with ham | ha
  · rcases List.mem_cons.1 hb with hbm | hb
    · rw [ham, hbm]
    · rw [ham] at hkind horg hname ⊢
      exact hnew b hb (.inl hkind) horg hname
  · rcases List.mem_cons.1 hb with hbm | hb
    · rw [hbm] at horg hname ⊢
      exact (hnew a ha (.inr hkind) horg.symm hname.symm).symm
    · exact h a ha b hb hkind horg hname

/-- What a write adds keeps the history separate, when a repository is only opened to its own student. -/
theorem entry_separate {unicode : Unicode} {s : State} {ctx : WorkspaceContext} {reply : Reply} {stage : Stage}
    {w : Write} (hfrom : w.From s ctx reply stage) (hs : Sound unicode s)
    (hsound : (Attempt.running ctx stage).Sound unicode s) (hsep : Separate s.handed)
    (hown : ∀ no repo base, stage = .granting no repo base → reply.outcome.reached = true →
      s.handed.any (hadByOther ctx no) = false) : Separate (w.entry.toList ++ s.handed) := by
  have hentry := fun entry (h : w.entry = some entry) => entry_sound hfrom h hsound hs.handed
  have hadds := write_adds s w
  cases w with
  | created repo new =>
    obtain ⟨no, name, base, rfl, hnone, howner, rfl, rfl⟩ := hfrom
    -- What others were given exists, and this one did not.
    refine separate_cons hsep fun b hb _ _ hname => ?_
    obtain ⟨hbowner, hbname⟩ := Prod.mk.injEq .. ▸ hname
    have hthere := (hs.handed b hb).there
    rw [← hbowner, ← hbname] at hthere
    exact absurd hnone (Option.isSome_iff_ne_none.1 hthere)
  | granted new =>
    obtain ⟨no, repo, base, rfl, hreached, rfl⟩ := hfrom
    refine separate_cons hsep fun b hb _ horg hname => ?_
    obtain ⟨hkey, hno⟩ := same_key (hentry _ rfl) ((hs.handed b hb).mono hadds) hname
    have hb' := List.any_eq_false.1 (hown no repo base rfl hreached) b hb
    have hbkey : b.key = ctx.key := hkey.symm
    have hbno : b.no = no := hno.symm
    have hborg : b.organizationId = ctx.organizationId := horg.symm
    simp only [hadByOther, hbkey, hbno, hborg, BEq.rfl, Bool.true_and, bne_iff_ne, ne_eq, not_not] at hb'
    exact hb'.symm
  | activated id repo branch base new =>
    obtain ⟨-, no, rfl, rfl⟩ := hfrom
    -- It has been opened to the student before it is recorded.
    refine separate_cons hsep fun b hb _ horg hname => ?_
    exact hsep _ hsound.2.2 b hb (show HandedKind.granted ≠ .created by decide) horg hname
  | nothing => exact hsep
  | upserted id => exact hsep
  | claimed id => exact hsep
  | numbered id no => exact hsep
  | failed id reason => exact hsep

theorem step_separate {unicode : Unicode} {s s' : State} {ev : Event} (hs : Sound unicode s) (hsep : Separate s.handed)
    (hok : opensOwn s ev = true) (h : step unicode s ev = some s') : Separate s'.handed := by
  rcases step_handed h with heq | ⟨i, reply, ctx, stage, rfl, hget, heq⟩
  · rw [heq]
    exact hsep
  · rw [heq]
    refine entry_separate (provisionStep_from unicode s ctx reply stage) hs (hs.attempts i _ hget) hsep ?_
    rintro no repo base rfl hreached
    simpa [opensOwn, hget, hreached] using hok

/-- Opening a repository that another student had is a breach that the history keeps. -/
theorem step_breach {unicode : Unicode} {s s' : State} {ev : Event} (hs : Sound unicode s)
    (hbad : opensOwn s ev = false) (h : step unicode s ev = some s') : ¬ Separate s'.handed := by
  have hs' := step_sound hs h
  have hgrows := step_grows h
  cases ev with
  | resume i reply =>
    obtain ⟨a, ha, rfl⟩ := Option.map_eq_some_iff.1 h
    cases a with
    | connecting l => simp [opensOwn, ha] at hbad
    | running ctx stage =>
      cases stage with
      | granting no repo base =>
        simp only [opensOwn, ha, Bool.not_eq_false', Bool.and_eq_true, List.any_eq_true] at hbad
        obtain ⟨hreached, b, hb, hother⟩ := hbad
        simp only [hadByOther, Bool.and_eq_true, beq_iff_eq, bne_iff_ne, ne_eq] at hother
        obtain ⟨⟨⟨horg, hkey⟩, hno⟩, hstudent⟩ := hother
        have hg : handedFor ctx .granted no repo.name ∈
            ((s.write (provisionStep unicode s ctx reply (.granting no repo base)).1).next i
              (provisionStep unicode s ctx reply (.granting no repo base)).2).handed := by
          rw [next_handed, write_handed]
          simp [provisionStep, hreached, Write.entry]
        have hname := same_name (hs'.handed _ hg) (hs'.handed b (hgrows b hb)) hkey.symm hno.symm
        intro hsep
        have hsame := hsep _ hg b (hgrows b hb) (show HandedKind.granted ≠ .created by decide) horg.symm hname
        exact hstudent hsame.symm
      | _ => simp [opensOwn, ha] at hbad
  | _ => cases hbad

/-! ## One student, one repository -/

namespace Example

def before : State where
  rows := ⟨[], fun _ => ⟨none, none⟩, [], fun _ => none, fun _ => none, Table.empty⟩
  repos := []
  attempts := Pool.empty
  now := 0
  issued := []
  handed := []

def admin : JwtPayload := ⟨"ada", .orgAdmin, "Ada", some "acme", none, none⟩

def coded (code : String) : CreateBatchDto := ⟨some "September", none, some code, none, none, none, none, none⟩

/-- The school opens the program `FE` with a batch `SEP26` and enrols a student, who starts. -/
def opening : List Event :=
  [.configure ⟨(school Table.empty).coding, [], fun _ => some connection, some⟩,
    .createCourse ⟨0, fun _ => none, "fe", fun _ => true⟩ admin
      ⟨"Frontend", none, none, some "fe", none, none, none, none, none, none, none, none, none⟩,
    .createBatch ⟨0, fun _ => none, "fe-sep", fun _ => true⟩ admin "fe" (coded "sep26"),
    .redeemInvite "fe-sep" "aisha" "e1", .start 0 "aisha" "e1"] ++ goesWell 0 10

/-- A second student is enrolled and starts. -/
def joins : List Event := [.redeemInvite "fe-sep" "bilal" "e2", .start 1 "bilal" "e2"] ++ goesWell 1 10

/-- The first student leaves before the second one comes. -/
def replaces : List Event :=
  [.unenroll "aisha" "fe-sep", .redeemInvite "fe-sep" "bilal" "e2", .start 1 "bilal" "e2"] ++ goesWell 1 8

theorem before_initial : Initial before := by
  refine ⟨rfl, fun e => rfl, fun i => rfl, rfl⟩

end Example

end Livetich.Workspace
