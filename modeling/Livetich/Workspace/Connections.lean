/-
Connecting a workspace to GitHub: `GitHubConnectionService.connect` and `disconnect`, call by call of GitHub and of the
database. No key of the database keeps an installation to one workspace; the check before the write does, where no two
workspaces connect one installation at a time.
-/
import Livetich.Lib.Table
import Livetich.Lib.TransSys
import Livetich.Workspace.Model

namespace Livetich.Workspace.Connections

open TransSys Livetich.Lib

/-- What GitHub says of an installation. -/
structure InstallationInfo where
  id : String
  accountLogin : String
  accountType : Option String
  suspended : Bool
  deriving DecidableEq

/-- An installation that is suspended, or on a personal account, is not connected. -/
def InstallationInfo.vetted (info : InstallationInfo) : Bool :=
  !info.suspended && info.accountType.all fun type => type == "" || type == "Organization"

/-! ## Calls -/

inductive Task
  /-- `connect` asks GitHub about an installation. -/
  | resolving (orgId : OrganizationId) (installationId : String)
  /-- Is it claimed elsewhere? -/
  | checking (orgId : OrganizationId) (info : InstallationInfo)
  | upserting (orgId : OrganizationId) (info : InstallationInfo)
  /-- `disconnect` reads the row. -/
  | finding (orgId : OrganizationId)
  | revoking (orgId : OrganizationId)
  deriving DecidableEq

structure State where
  rows : Table OrganizationId GitHubOrganizationConnection
  calls : Pool Task
  nextCall : Nat
  /-- What GitHub has answered; no call reads it. -/
  told : List InstallationInfo

def init : State := ⟨Table.empty, Pool.empty, 0, []⟩

inductive Event
  | connect (orgId : OrganizationId) (installationId : String)
  | disconnect (orgId : OrganizationId)
  /-- GitHub answers call `i`; `none` where it knows no such installation. -/
  | resolved (i : Nat) (info : Option InstallationInfo)
  /-- The database answers call `i`. -/
  | resume (i : Nat)
  | fail (i : Nat)
  deriving DecidableEq

def State.begin (s : State) (t : Task) : State :=
  { s with calls := s.calls.put s.nextCall (some t), nextCall := s.nextCall + 1 }

def State.claimedElsewhere (s : State) (orgId : OrganizationId) (installationId : String) : Bool :=
  s.rows.entries.any fun e => e.1 != orgId && e.2.githubInstallationId == installationId

def connection (info : InstallationInfo) : GitHubOrganizationConnection := ⟨info.id, info.accountLogin, .active⟩

/-- `upsert` of the one row of a workspace. -/
def State.upsert (s : State) (orgId : OrganizationId) (info : InstallationInfo) :
    Table OrganizationId GitHubOrganizationConnection :=
  if (s.rows.get orgId).isSome then s.rows.modify orgId fun _ => connection info
  else s.rows.insert orgId (connection info)

/-- One database call of call `i`, with the code up to the next. -/
def State.act (s : State) (i : Nat) : Task → State
  | .resolving _ _ => s
  | .checking orgId info =>
    let claimed := s.claimedElsewhere orgId info.id
    { s with calls := s.calls.put i (if claimed then none else some (.upserting orgId info)) }
  | .upserting orgId info => { s with rows := s.upsert orgId info, calls := s.calls.put i none }
  | .finding orgId => { s with calls := s.calls.put i ((s.rows.get orgId).map fun _ => .revoking orgId) }
  | .revoking orgId =>
    { s with rows := s.rows.modify orgId fun c => { c with status := .revoked }, calls := s.calls.put i none }

def step (s : State) : Event → Option State
  | .connect orgId installationId => some (s.begin (.resolving orgId installationId))
  | .disconnect orgId => some (s.begin (.finding orgId))
  | .resolved i info => match s.calls.get i with
    | some (.resolving orgId _) =>
      let s := { s with told := info.toList ++ s.told }
      some { s with
        calls := s.calls.put i ((info.filter (·.vetted)).map fun info => .checking orgId info) }
    | _ => none
  | .resume i => match s.calls.get i with
    | some (.resolving _ _) => none
    | some t => some (s.act i t)
    | none => none
  | .fail i => (s.calls.get i).map fun _ => { s with calls := s.calls.put i none }

/-- When a call checks an installation, no other workspace has checked it and not yet written it. -/
def apart (s : State) : Event → Bool
  | .resume i => match s.calls.get i with
    | some (.checking orgId info) => s.calls.entries.all fun e => match e.2 with
      | .upserting orgId' info' => info'.id != info.id || orgId' == orgId
      | _ => true
    | _ => true
  | _ => true

/-! ## One workspace to an installation -/

/-- What a call knows of the rows. -/
def Task.Knows (s : State) : Task → Prop
  | .checking _ info => info ∈ s.told ∧ info.vetted = true
  | .upserting orgId info => info ∈ s.told ∧ info.vetted = true ∧
      ∀ orgId' c, s.rows.get orgId' = some c → c.githubInstallationId = info.id → orgId' = orgId
  | _ => True

structure Inv (s : State) : Prop where
  /-- No two workspaces are connected to one installation. -/
  one : ∀ orgId orgId' c c', s.rows.get orgId = some c → s.rows.get orgId' = some c' →
    c.githubInstallationId = c'.githubInstallationId → orgId = orgId'
  /-- What is connected, GitHub has confirmed. -/
  confirmed : ∀ orgId c, s.rows.get orgId = some c →
    ∃ info ∈ s.told, info.vetted = true ∧ c.githubInstallationId = info.id ∧
      c.githubOrganizationLogin = info.accountLogin
  knows : ∀ i t, s.calls.get i = some t → t.Knows s
  /-- Two calls that write one installation are of one workspace. -/
  apart : ∀ i j orgId orgId' info info', s.calls.get i = some (.upserting orgId info) →
    s.calls.get j = some (.upserting orgId' info') → info.id = info'.id → orgId = orgId'

theorem inv_init : Inv init where
  one _ _ _ _ h := (nomatch h)
  confirmed _ _ h := (nomatch h)
  knows _ _ h := (nomatch h)
  apart _ _ _ _ _ _ h := (nomatch h)

section Step

variable {s s' : State} {i : Nat} {orgId : OrganizationId} {info : InstallationInfo}

theorem get_upsert (orgId' : OrganizationId) :
    (s.upsert orgId info).get orgId' = if orgId' = orgId then some (connection info) else s.rows.get orgId' := by
  unfold State.upsert
  cases hrow : s.rows.get orgId with
  | none => rw [if_neg (by simp), Table.get_insert hrow]
  | some c =>
    rw [Option.isSome_some, if_pos rfl]
    by_cases horg : orgId' = orgId
    · subst horg
      rw [Table.get_modify_self, hrow, if_pos rfl]
      rfl
    · rw [Table.get_modify_of_ne _ _ horg, if_neg horg]

theorem not_claimed (h : s.claimedElsewhere orgId info.id = false) {orgId' : OrganizationId}
    {c : GitHubOrganizationConnection} (hc : s.rows.get orgId' = some c) (hid : c.githubInstallationId = info.id) :
    orgId' = orgId := by
  have hrow := List.any_eq_false.1 h (orgId', c) (Table.mem_of_get hc)
  simpa [hid] using hrow

/-- A call that ends, or goes on to a task that knows of the rows as much as it must. -/
theorem Inv.goOn (h : Inv s) {t : Option Task} (hknows : ∀ u ∈ t, u.Knows s)
    (hapart : ∀ orgId info, t = some (.upserting orgId info) → ∀ j orgId' info',
      s.calls.get j = some (.upserting orgId' info') → info'.id = info.id → orgId' = orgId) :
    Inv { s with calls := s.calls.put i t } where
  one := h.one
  confirmed := h.confirmed
  knows j u hj := by
    rcases Pool.get_put_cases hj with ⟨-, ht⟩ | ⟨-, hj⟩
    · exact hknows u ht
    · exact h.knows j u hj
  apart j k o o' x x' hj hk hid := by
    rcases Pool.get_put_cases hj with ⟨rfl, ht⟩ | ⟨hji, hj⟩
    · rcases Pool.get_put_cases hk with ⟨-, ht'⟩ | ⟨-, hk⟩
      · rw [ht] at ht'
        cases ht'
        rfl
      · exact (hapart o x ht k o' x' hk hid.symm).symm
    · rcases Pool.get_put_cases hk with ⟨-, ht⟩ | ⟨-, hk⟩
      · exact hapart o' x' ht j o x hj hid
      · exact h.apart j k o o' x x' hj hk hid

theorem Inv.finish (h : Inv s) : Inv { s with calls := s.calls.put i none } :=
  h.goOn (fun _ hu => (nomatch hu)) fun _ _ ht => (nomatch ht)

theorem Inv.begin (h : Inv s) {t : Task} (ht : t.Knows s) (hup : ∀ orgId info, t ≠ .upserting orgId info) :
    Inv (s.begin t) := by
  have hnext : Inv { s with calls := s.calls.put s.nextCall (some t) } := by
    refine h.goOn (fun u hu => ?_) fun orgId info heq => absurd (Option.some.inj heq) (hup orgId info)
    cases hu
    exact ht
  exact ⟨hnext.one, hnext.confirmed, hnext.knows, hnext.apart⟩

/-- GitHub's answer is noted. -/
theorem Inv.tell (h : Inv s) (answers : List InstallationInfo) : Inv { s with told := answers ++ s.told } where
  one := h.one
  confirmed o c hc := by
    obtain ⟨x, hx, hrest⟩ := h.confirmed o c hc
    exact ⟨x, List.mem_append_right _ hx, hrest⟩
  knows j t hj := by
    have hknows := h.knows j t hj
    cases t with
    | checking o x => exact ⟨List.mem_append_right _ hknows.1, hknows.2⟩
    | upserting o x => exact ⟨List.mem_append_right _ hknows.1, hknows.2⟩
    | resolving o x => trivial
    | finding o => trivial
    | revoking o => trivial
  apart := h.apart

theorem Inv.write (h : Inv s) (hi : s.calls.get i = some (.upserting orgId info)) :
    Inv { s with rows := s.upsert orgId info, calls := s.calls.put i none } := by
  obtain ⟨htold, hvetted, hfree⟩ := h.knows i _ hi
  have hget : ∀ {o c}, (s.upsert orgId info).get o = some c →
      (o = orgId ∧ c = connection info) ∨ (o ≠ orgId ∧ s.rows.get o = some c) := by
    intro o c hc
    rw [get_upsert] at hc
    split at hc
    · exact .inl ⟨‹_›, (Option.some.inj hc).symm⟩
    · exact .inr ⟨‹_›, hc⟩
  have hrest := h.finish (i := i)
  refine ⟨fun o o' c c' hc hc' hid => ?_, fun o c hc => ?_, fun j t hj => ?_, hrest.apart⟩
  · rcases hget hc with ⟨rfl, rfl⟩ | ⟨-, hold⟩
    · rcases hget hc' with ⟨rfl, -⟩ | ⟨-, hold'⟩
      · rfl
      · exact (hfree o' c' hold' hid.symm).symm
    · rcases hget hc' with ⟨rfl, rfl⟩ | ⟨-, hold'⟩
      · exact hfree o c hold hid
      · exact h.one o o' c c' hold hold' hid
  · rcases hget hc with ⟨-, rfl⟩ | ⟨-, hold⟩
    · exact ⟨info, htold, hvetted, rfl, rfl⟩
    · exact h.confirmed o c hold
  · have hknows := hrest.knows j t hj
    cases t with
    | upserting o x =>
      refine ⟨hknows.1, hknows.2.1, fun o' c hc hid => ?_⟩
      rcases hget hc with ⟨rfl, rfl⟩ | ⟨-, hold⟩
      · rcases Pool.get_put_cases hj with ⟨-, hnone⟩ | ⟨-, hj⟩
        · cases hnone
        · exact h.apart i j o' o info x hi hj hid
      · exact hknows.2.2 o' c hold hid
    | checking o x => exact hknows
    | resolving o x => trivial
    | finding o => trivial
    | revoking o => trivial

theorem Inv.revoke (h : Inv s) : Inv { s with
    rows := s.rows.modify orgId fun c => { c with status := .revoked }, calls := s.calls.put i none } := by
  have hget : ∀ {o c}, (s.rows.modify orgId fun c => { c with status := .revoked }).get o = some c →
      ∃ old, s.rows.get o = some old ∧ c.githubInstallationId = old.githubInstallationId ∧
        c.githubOrganizationLogin = old.githubOrganizationLogin := by
    intro o c hc
    by_cases ho : o = orgId
    · subst ho
      rw [Table.get_modify_self] at hc
      obtain ⟨old, hold, rfl⟩ := Option.map_eq_some_iff.1 hc
      exact ⟨old, hold, rfl, rfl⟩
    · rw [Table.get_modify_of_ne _ _ ho] at hc
      exact ⟨c, hc, rfl, rfl⟩
  have hrest := h.finish (i := i)
  refine ⟨fun o o' c c' hc hc' hid => ?_, fun o c hc => ?_, fun j t hj => ?_, hrest.apart⟩
  · obtain ⟨old, hold, hsame, -⟩ := hget hc
    obtain ⟨old', hold', hsame', -⟩ := hget hc'
    exact h.one o o' old old' hold hold' (by rw [← hsame, hid, hsame'])
  · obtain ⟨old, hold, hsame, hlogin⟩ := hget hc
    rw [hsame, hlogin]
    exact h.confirmed o old hold
  · have hknows := hrest.knows j t hj
    cases t with
    | upserting o x =>
      refine ⟨hknows.1, hknows.2.1, fun o' c hc hid => ?_⟩
      obtain ⟨old, hold, hsame, -⟩ := hget hc
      exact hknows.2.2 o' old hold (by rw [← hsame, hid])
    | checking o x => exact hknows
    | resolving o x => trivial
    | finding o => trivial
    | revoking o => trivial

theorem inv_step {e : Event} (h : Inv s) (hok : apart s e = true) (hs : step s e = some s') : Inv s' := by
  cases e with
  | connect o x =>
    cases hs
    exact h.begin trivial fun _ _ => nofun
  | disconnect o =>
    cases hs
    exact h.begin trivial fun _ _ => nofun
  | fail i =>
    obtain ⟨t, -, rfl⟩ := Option.map_eq_some_iff.1 hs
    exact h.finish
  | resolved i answer =>
    unfold step at hs
    dsimp only at hs
    split at hs
    · rename_i o x hi
      cases hs
      refine (h.tell answer.toList).goOn (fun u hu => ?_) fun o' x' ht => ?_
      · obtain ⟨y, hy, rfl⟩ := Option.map_eq_some_iff.1 hu
        obtain ⟨hy, hvetted⟩ := Option.filter_eq_some_iff.1 hy
        exact ⟨List.mem_append_left _ (by simp [hy]), hvetted⟩
      · obtain ⟨y, -, hy⟩ := Option.map_eq_some_iff.1 ht
        cases hy
    · cases hs
  | resume i =>
    unfold step at hs
    dsimp only at hs
    split at hs
    · cases hs
    · rename_i t _ hi
      cases hs
      cases t with
      | resolving o x => exact h
      | checking o x =>
        have hknows := h.knows i _ hi
        unfold State.act
        dsimp only
        split
        · exact h.finish
        · rename_i hclaimed
          refine h.goOn (fun u hu => ?_) fun o' x' ht j o₁ x₁ hj hid => ?_
          · cases hu
            exact ⟨hknows.1, hknows.2, fun o' c hc hid => not_claimed (by simpa using hclaimed) hc hid⟩
          · cases ht
            -- the rows say nothing of who else is about to write: the condition does
            unfold apart at hok
            dsimp only at hok
            rw [hi] at hok
            have hother := List.all_eq_true.1 hok (j, .upserting o₁ x₁) (Pool.mem_of_get hj)
            simpa [hid] using hother
      | upserting o x => exact h.write hi
      | finding o =>
        refine h.goOn (fun u hu => ?_) fun o' x' ht => ?_
        · obtain ⟨c, -, rfl⟩ := Option.map_eq_some_iff.1 hu
          trivial
        · obtain ⟨c, -, hc⟩ := Option.map_eq_some_iff.1 ht
          cases hc
      | revoking o => exact h.revoke
    · cases hs

end Step

/-- In a run in which no two workspaces connect one installation at a time, no two are ever connected to one, and what
a workspace is connected to GitHub has confirmed: an installation of that name, not suspended and not of a person. -/
theorem one_workspace {es : List Event} {s : State} (hok : Meets step (fun s e => apart s e = true) init es)
    (h : run step init es = some s) :
    (∀ orgId orgId' c c', s.rows.get orgId = some c → s.rows.get orgId' = some c' →
      c.githubInstallationId = c'.githubInstallationId → orgId = orgId') ∧
    ∀ orgId c, s.rows.get orgId = some c → ∃ info ∈ s.told, info.vetted = true ∧
      c.githubInstallationId = info.id ∧ c.githubOrganizationLogin = info.accountLogin :=
  have hs := run_inv (fun _ _ _ => inv_step) inv_init hok h
  ⟨hs.one, hs.confirmed⟩

namespace Example

def iqra : InstallationInfo := ⟨"77", "iqra-school", some "Organization", false⟩

/-- One school connects, another tries the same installation and then its own; the first disconnects. -/
def connects : List Event :=
  [.connect "iqra" "77", .connect "noor" "77", .resolved 0 (some iqra), .resolved 1 (some iqra), .resume 0, .resume 0,
    .resume 1, .connect "noor" "78", .resolved 2 (some { iqra with id := "78", accountLogin := "noor-school" }),
    .resume 2, .resume 2, .disconnect "iqra", .resume 3, .resume 3]

/-- Both have looked before either writes. -/
def together : List Event :=
  [.connect "iqra" "77", .connect "noor" "77", .resolved 0 (some iqra), .resolved 1 (some iqra), .resume 0, .resume 1,
    .resume 0, .resume 1]

def installations (s : State) : List (OrganizationId × String) :=
  s.rows.entries.map fun e => (e.1, e.2.githubInstallationId)

-- two workspaces on one installation: what the condition is for
example : (run step init together).map installations = some [("iqra", "77"), ("noor", "77")] := by decide

end Example

open Connections.Example in
theorem connects_apart : ∃ s, run step init connects = some s ∧ installations s = [("iqra", "77"), ("noor", "78")] ∧
    ∀ orgId orgId' c c', s.rows.get orgId = some c → s.rows.get orgId' = some c' →
      c.githubInstallationId = c'.githubInstallationId → orgId = orgId' := by
  have hrun : (run step init connects).map installations = some [("iqra", "77"), ("noor", "78")] := by decide
  obtain ⟨s, hs, hobs⟩ := Option.map_eq_some_iff.1 hrun
  exact ⟨s, hs, hobs, (one_workspace (by decide) hs).1⟩

end Livetich.Workspace.Connections
