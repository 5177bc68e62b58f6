/-
The code documents as a service that counts its clients, and when a flush takes the registered entry away from
nobody: the last release deletes by session, whichever entry is registered when its flush has ended.
-/
import Livetich.Lib.Registry
import Livetich.Code.DocService
import Livetich.Sockets.Documents

namespace Livetich.Code.References

open TransSys Livetich.Sockets DocService

variable {E : Type}

/-! ## The service -/

/-- What a socket that has joined may do to the document. -/
inductive Change (E : Type)
  | update (u : Update E)
  | seed (path content : String) (edit : E)

/-- What happens besides the calls. -/
inductive Flow
  | load
  | loadFails
  /-- A flush goes on; a put lands. -/
  | resume (i : Nat)
  | putFails (i : Nat) (stored : Bool)
  deriving DecidableEq

def waitsFor : DocService.Task E → Option Nat
  | .retain e => some e
  | _ => none

/-- The entry a call of the gateway holds on to. -/
def claims : DocService.Task E → Option Nat
  | .retain e | .put .release e _ | .flushed .release e _ => some e
  | _ => none

def unawaited (s : DocService.State E) (e : Nat) : Bool := s.tasks.entries.all fun q => waitsFor q.2 != some e

/-- Nobody holds the registered entry or waits for it. -/
def unheld (s : DocService.State E) : Bool :=
  match s.registered with
  | some (e, x) => x.clients == 0 && unawaited s e
  | none => true

def enter (s : DocService.State E) (i : Nat) : Option (DocService.State E × Bool) :=
  match s.tasks.get i with
  | some (.retain e) => (DocService.resume s i (.retain e)).map fun s' => (s', (s.heap e).isSome)
  | _ => none

/-- The last release deletes the registered entry while nobody holds it or waits for it. -/
def safeStep (s : DocService.State E) : Flow → Bool
  | .resume i => match s.tasks.get i with
    | some (.flushed .release _ _) => unheld s
    | _ => true
  | _ => true

section

variable [DecidableEq E] (y : Yjs E)

def update (s : DocService.State E) : Change E → DocService.State E
  | .update u => DocService.applyUpdate y s u
  | .seed path content edit => DocService.seedFileContent y s path content edit

def step (s : DocService.State E) : Flow → Option (DocService.State E)
  | .load => DocService.step y s .load
  | .loadFails => DocService.step y s .loadFails
  | .resume i => if ((s.tasks.get i).bind waitsFor).isNone then DocService.step y s (.resume i) else none
  | .putFails i stored => DocService.step y s (.putFails i stored)

def service (snapshot : Option (Doc E)) : Documents.Service where
  State := DocService.State E
  Update := Change E
  Event := Flow
  init := DocService.init snapshot
  retain := DocService.retain
  enter := enter
  release s i := DocService.release y { s with held := s.held - 1 } i
  update := update y
  tick := DocService.flushDirty
  step := step y
  taken s i := (s.tasks.get i).isSome
  calls s := s.tasks.entries.any fun q => (claims q.2).isSome
  clients s := s.registered.map fun p => p.2.clients
  destroyed s := s.registered.any fun p => p.2.destroyed
  unsaved _ := false
  -- the gateway asks for no report
  reports _ := 0
  safeRelease _ := true
  safeStep := safeStep

end

/-! ## The entries as a registry -/

def ended : DocService.Load E → Bool
  | .settled => true
  | _ => false

def entries (s : DocService.State E) : Registry.State where
  counts e := (s.heap e).map fun x => x.clients
  next := s.nextEntry
  registered := s.docs
  loading := s.loading.map fun l => (l.1, ended l.2)
  waits i := (s.tasks.get i).bind waitsFor

@[simp] theorem entries_setEntry (s : DocService.State E) (e : Nat) (x : CodeEntry E) :
    entries (s.setEntry e x) = { entries s with counts := (entries s).counts.put e (some x.clients) } := by
  unfold entries
  rw [Registry.State.mk.injEq]
  exact ⟨Slots.map_put _ s.heap e (some x), rfl, rfl, rfl, rfl⟩

@[simp] theorem entries_goto (s : DocService.State E) (i : Nat) (t : Option (DocService.Task E)) :
    entries (s.goto i t) = { entries s with waits := (entries s).waits.put i (t.bind waitsFor) } := by
  unfold entries
  rw [Registry.State.mk.injEq]
  refine ⟨rfl, rfl, rfl, rfl, ?_⟩
  show (fun j => ((s.tasks.put i t).get j).bind waitsFor) = _
  rw [Pool.get_put, Slots.bind_put]

theorem waits_of {s : DocService.State E} {i : Nat} {t : Option (DocService.Task E)} (h : s.tasks.get i = t) :
    (entries s).waits i = t.bind waitsFor := by
  show (s.tasks.get i).bind waitsFor = _
  rw [h]

theorem loading_of {s : DocService.State E} {e : Nat} {l : DocService.Load E} (h : s.loading = some (e, l)) :
    (entries s).loading = some (e, ended l) := by
  show s.loading.map _ = _
  rw [h]
  rfl

theorem counts_of {s : DocService.State E} {e : Nat} {x : CodeEntry E} (h : s.heap e = some x) :
    (entries s).counts e = some x.clients := by
  show (s.heap e).map _ = _
  rw [h]
  rfl

theorem unawaited_iff {s : DocService.State E} {e : Nat} :
    unawaited s e = true ↔ ∀ i, (entries s).waits i ≠ some e := by
  unfold unawaited
  rw [List.all_eq_true]
  constructor
  · intro hall i hi
    obtain ⟨t, ht, hw⟩ := Option.bind_eq_some_iff.1 hi
    have := hall _ (Pool.mem_of_get ht)
    simp [hw] at this
  · rintro hnone ⟨i, t⟩ hmem
    have hw : waitsFor t ≠ some e := by
      intro hw
      refine hnone i ?_
      rw [waits_of (Pool.get_of_mem hmem), Option.bind_some, hw]
    simpa using hw

/-- A call of the gateway holds on to the entry. -/
def Claimed (s : DocService.State E) (e : Nat) : Prop := ∃ i t, s.tasks.get i = some t ∧ claims t = some e

/-- An entry the map holds. -/
structure Kept (s : DocService.State E) (e : Nat) (x : CodeEntry E) : Prop where
  nonneg : 0 ≤ x.clients
  undestroyed : x.destroyed = false
  claimed : x.clients = 0 → Claimed s e

/-- Who is counted and who waits, and the entry the map holds is there for somebody. -/
structure Inv (s : DocService.State E) : Prop where
  registry : Registry.Inv (entries s)
  kept : ∀ e x, s.docs = some e → s.heap e = some x → Kept s e x

theorem Inv.registered_eq_none {s : DocService.State E} (h : Inv s) : s.registered = none ↔ s.docs = none := by
  constructor
  · intro hnone
    cases hb : s.docs with
    | none => rfl
    | some e =>
      obtain ⟨n, hn⟩ := h.registry.present e hb
      obtain ⟨x, hx, -⟩ := Option.map_eq_some_iff.1 hn
      rw [DocService.State.registered_eq_some.2 ⟨hb, hx⟩] at hnone
      cases hnone
  · intro hb
    unfold DocService.State.registered
    rw [hb]
    rfl

/-! ## What each write keeps -/

/-- What the store keeps has no part in it. -/
theorem Inv.congr {s s' : DocService.State E} (h : Inv s) (hheap : s'.heap = s.heap) (hentries : entries s' = entries s)
    (htasks : s'.tasks = s.tasks) : Inv s' := by
  have hdocs : s'.docs = s.docs := congrArg Registry.State.registered hentries
  constructor
  · rw [hentries]
    exact h.registry
  · intro e x hb hx
    rw [hheap] at hx
    rw [hdocs] at hb
    obtain ⟨hnonneg, hundestroyed, hclaimed⟩ := h.kept e x hb hx
    refine ⟨hnonneg, hundestroyed, fun hzero => ?_⟩
    unfold Claimed
    rw [htasks]
    exact hclaimed hzero

theorem Inv.setEntry {s : DocService.State E} {e : Nat} {x x' : CodeEntry E} (h : Inv s) (hx : s.heap e = some x)
    (hkept : s.docs = some e → Kept s e x') : Inv (s.setEntry e x') := by
  constructor
  · rw [entries_setEntry]
    exact h.registry.count (counts_of hx) _
  · intro d z hb hz
    have hold : Kept s d z := by
      rcases Slots.put_eq_some hz with ⟨rfl, hnew⟩ | ⟨-, hold⟩
      · cases hnew
        exact hkept hb
      · exact h.kept d z hb hold
    exact ⟨hold.nonneg, hold.undestroyed, hold.claimed⟩

/-- A task goes on that waits for no entry, and lets go of none that is registered. -/
theorem Inv.goto {s : DocService.State E} {i : Nat} {t : Option (DocService.Task E)} (h : Inv s)
    (hi : (entries s).waits i = none) (ht : t.bind waitsFor = none)
    (hclaims : ∀ e, s.docs = some e → (s.tasks.get i).bind claims = some e → t.bind claims = some e) :
    Inv (s.goto i t) := by
  constructor
  · rw [entries_goto, ht, Slots.put_of_eq hi]
    exact h.registry
  · intro d z hb hz
    obtain ⟨hnonneg, hundestroyed, hclaimed⟩ := h.kept d z hb hz
    refine ⟨hnonneg, hundestroyed, fun hzero => ?_⟩
    obtain ⟨j, u, hj, hu⟩ := hclaimed hzero
    have htasks : (s.goto i t).tasks.get = s.tasks.get.put i t := Pool.get_put _ _ _
    by_cases hji : j = i
    · subst hji
      obtain ⟨v, hv, hclaim⟩ := Option.bind_eq_some_iff.1 (hclaims d hb (by rw [hj]; exact hu))
      refine ⟨j, v, ?_, hclaim⟩
      rw [htasks, Slots.put_self, hv]
    · refine ⟨j, u, ?_, hu⟩
      rw [htasks, Slots.put_of_ne _ _ hji, hj]

/-- A retain waits. -/
theorem Inv.waits {s : DocService.State E} {i e : Nat} (h : Inv s) (hi : s.tasks.get i = none)
    (hregistry : Registry.Inv { entries s with waits := (entries s).waits.put i (some e) }) :
    Inv (s.goto i (some (.retain e))) := by
  constructor
  · rw [entries_goto]
    exact hregistry
  · intro d z hb hz
    obtain ⟨hnonneg, hundestroyed, hclaimed⟩ := h.kept d z hb hz
    refine ⟨hnonneg, hundestroyed, fun hzero => ?_⟩
    obtain ⟨j, u, hj, hu⟩ := hclaimed hzero
    have hji : j ≠ i := by
      rintro rfl
      rw [hi] at hj
      cases hj
    refine ⟨j, u, ?_, hu⟩
    rw [show (s.goto i _).tasks.get = _ from Pool.get_put _ _ _, Slots.put_of_ne _ _ hji, hj]

/-- A retain stops waiting for an entry that is counted, or was never loaded. -/
theorem Inv.leaves {s : DocService.State E} {i e : Nat} (h : Inv s) (hi : s.tasks.get i = some (.retain e))
    (hl : s.loading.any (fun l => l.1 == e) = false) (hpos : ∀ x, s.heap e = some x → x.clients ≠ 0) :
    Inv (s.goto i none) := by
  constructor
  · rw [entries_goto]
    refine h.registry.leave fun d hd b hload => ?_
    have hde : d = e := Option.some.inj (hd.symm.trans (waits_of hi))
    obtain ⟨l, hsome, hl'⟩ := Option.map_eq_some_iff.1 hload
    rw [hsome, Option.any_some, beq_eq_false_iff_ne] at hl
    exact hl ((congrArg Prod.fst hl').trans hde)
  · intro d z hb hz
    obtain ⟨hnonneg, hundestroyed, hclaimed⟩ := h.kept d z hb hz
    refine ⟨hnonneg, hundestroyed, fun hzero => ?_⟩
    obtain ⟨j, u, hj, hu⟩ := hclaimed hzero
    have hji : j ≠ i := by
      rintro rfl
      obtain rfl : u = .retain e := Option.some.inj (hj.symm.trans hi)
      cases hu
      exact hpos z hz hzero
    refine ⟨j, u, ?_, hu⟩
    rw [show (s.goto i none).tasks.get = _ from Pool.get_put _ _ _, Slots.put_of_ne _ _ hji, hj]

/-- The map forgets its entry while no retain waits for it. -/
theorem Inv.forget {s : DocService.State E} (h : Inv s) (hw : ∀ e, s.docs = some e → unawaited s e = true) :
    Inv { s with docs := none } := by
  refine ⟨h.registry.forget fun e he => unawaited_iff.1 (hw e he), ?_⟩
  rintro e x ⟨⟩

/-! ## The calls -/

theorem Inv.countIn {s : DocService.State E} {e : Nat} {x : CodeEntry E} (h : Inv s) (hb : s.docs = some e)
    (hx : s.heap e = some x) : Inv (s.countIn e x) := by
  obtain ⟨hnonneg, hundestroyed, -⟩ := h.kept e x hb hx
  have hcounted : Inv (s.setEntry e { x with clients := x.clients + 1 }) := by
    refine h.setEntry hx fun _ => ⟨by show 0 ≤ x.clients + 1; omega, hundestroyed, fun hzero => ?_⟩
    have : x.clients + 1 = 0 := hzero
    omega
  exact hcounted.congr rfl rfl rfl

theorem Inv.retain {s : DocService.State E} {i : Nat} (h : Inv s) (hi : s.tasks.get i = none) :
    Inv (DocService.retain s i) := by
  unfold DocService.retain
  cases hreg : s.registered with
  | some p =>
    obtain ⟨e, x⟩ := p
    obtain ⟨hb, hx⟩ := State.registered_eq_some.1 hreg
    exact h.countIn hb hx
  | none =>
    have hb : s.docs = none := h.registered_eq_none.1 hreg
    cases hl : s.loading with
    | some l =>
      obtain ⟨e, l⟩ := l
      exact h.waits hi (h.registry.join (loading_of hl) (waits_of hi))
    | none =>
      constructor
      · rw [entries_goto]
        exact h.registry.load (Option.map_eq_none_iff.2 hl) hb (waits_of hi)
      · intro d z hd
        rw [show s.docs = some d from hd] at hb
        cases hb

/-- A retain that waits no more is counted in at the registered entry, or was never loaded. -/
theorem Inv.arrived {s : DocService.State E} {i e : Nat} (h : Inv s) (hi : s.tasks.get i = some (.retain e))
    (hl : s.loading.any (fun l => l.1 == e) = false) : s.heap e = none ∨ s.docs = some e := by
  obtain ⟨-, ⟨b, hb⟩ | hcounts | hreg⟩ := h.registry.arrives i e (waits_of hi)
  · obtain ⟨l, hsome, hl'⟩ := Option.map_eq_some_iff.1 hb
    rw [hsome, Option.any_some, beq_eq_false_iff_ne] at hl
    exact absurd (congrArg Prod.fst hl') hl
  · exact .inl (Option.map_eq_none_iff.1 hcounts)
  · exact .inr hreg

theorem Inv.flushDirty {s : DocService.State E} {i : Nat} (h : Inv s) (hi : s.tasks.get i = none) :
    Inv (DocService.flushDirty s i) := by
  have hfree : ∀ e, s.docs = some e → (s.tasks.get i).bind claims = some e → False := by
    intro e _ hclaim
    rw [hi] at hclaim
    cases hclaim
  unfold DocService.flushDirty
  split
  · split
    · exact h.goto (waits_of hi) rfl fun e hb hclaim => (hfree e hb hclaim).elim
    · exact h
  · exact h

theorem claims_of_waitsFor {t : DocService.Task E} {e : Nat} (h : waitsFor t = some e) : claims t = some e := by
  cases t with
  | retain d => exact h
  | put caller d body => cases h
  | flushed caller d stored => cases h

/-- A flush goes on. -/
theorem Inv.resume {s s' : DocService.State E} {i : Nat} {t : DocService.Task E} (h : Inv s)
    (ht : s.tasks.get i = some t) (hwait : waitsFor t = none) (hs : DocService.resume s i t = some s')
    (hsafe : ∀ e stored, t = .flushed .release e stored → ∀ d, s.docs = some d → unawaited s d = true) : Inv s' := by
  have hi : (entries s).waits i = none := by
    rw [waits_of ht]
    exact hwait
  cases t with
  | retain e => cases hwait
  | put caller e body =>
    cases hs
    have hgone : Inv (s.goto i (some (.flushed caller e true))) := by
      refine h.goto hi rfl fun d _ hclaim => ?_
      rw [ht] at hclaim
      cases caller <;> exact hclaim
    exact hgone.congr rfl rfl rfl
  | flushed caller e stored =>
    cases caller with
    | release =>
      obtain ⟨x, hx, rfl⟩ := Option.map_eq_some_iff.1 hs
      have hforgot : Inv { s with docs := none } := h.forget (hsafe e stored rfl)
      have hset : Inv (({ s with docs := none } : DocService.State E).setEntry e
          { x with dirty := x.dirty && !stored, destroyed := true }) := by
        refine hforgot.setEntry hx ?_
        rintro ⟨⟩
      refine hset.goto hi rfl ?_
      rintro d ⟨⟩
    | timer =>
      obtain ⟨x, hx, rfl⟩ := Option.map_eq_some_iff.1 hs
      have hset : Inv (s.setEntry e { x with dirty := x.dirty && !stored }) := by
        refine h.setEntry hx fun hb => ?_
        obtain ⟨hnonneg, hundestroyed, hclaimed⟩ := h.kept e x hb hx
        exact ⟨hnonneg, hundestroyed, hclaimed⟩
      refine hset.goto hi rfl fun d _ hclaim => ?_
      rw [show (s.setEntry e _).tasks = s.tasks from rfl, ht] at hclaim
      cases hclaim

variable [DecidableEq E] (y : Yjs E)

/-- The last client out leaves the entry to its flush. -/
theorem Inv.release {s : DocService.State E} {i e : Nat} {x : CodeEntry E} (h : Inv s) (hi : s.tasks.get i = none)
    (hreg : s.registered = some (e, x)) (hpos : 0 < x.clients) : Inv (DocService.release y s i) := by
  obtain ⟨hb, hx⟩ := State.registered_eq_some.1 hreg
  obtain ⟨-, hundestroyed, -⟩ := h.kept e x hb hx
  unfold DocService.release
  rw [hreg]
  dsimp only
  split_ifs with hmore
  · refine h.setEntry hx fun _ => ⟨by show 0 ≤ x.clients - 1; omega, hundestroyed, fun hzero => ?_⟩
    have : x.clients - 1 = 0 := hzero
    omega
  · have hflush : Inv (s.goto i (some (.put .release e (sanitizeProtectedBuffers y x.doc true).1))) := by
      refine h.goto (waits_of hi) rfl fun d _ hclaim => ?_
      rw [hi] at hclaim
      cases hclaim
    have hclaimed : Claimed (s.goto i (some (.put .release e (sanitizeProtectedBuffers y x.doc true).1))) e := by
      refine ⟨i, .put .release e (sanitizeProtectedBuffers y x.doc true).1, ?_, rfl⟩
      rw [show (s.goto i _).tasks.get = _ from Pool.get_put _ _ _]
      exact Slots.put_self _ _ _
    exact hflush.setEntry (x := x) hx fun _ => ⟨by show 0 ≤ x.clients - 1; omega, rfl, fun _ => hclaimed⟩

theorem Inv.applyUpdate {s : DocService.State E} (h : Inv s) (u : Update E) : Inv (DocService.applyUpdate y s u) := by
  unfold DocService.applyUpdate
  cases hreg : s.registered with
  | none => exact h
  | some p =>
    obtain ⟨e, x⟩ := p
    obtain ⟨hb, hx⟩ := State.registered_eq_some.1 hreg
    obtain ⟨hnonneg, -, hclaimed⟩ := h.kept e x hb hx
    dsimp only
    split_ifs
    · have hset : Inv (s.setEntry e { x with doc := y.merge x.doc u, dirty := true, destroyed := false }) :=
        h.setEntry hx fun _ => ⟨hnonneg, rfl, hclaimed⟩
      exact hset.congr rfl rfl rfl
    · exact h

theorem Inv.update {s : DocService.State E} (h : Inv s) (u : Change E) : Inv (update y s u) := by
  cases u with
  | update u => exact h.applyUpdate y u
  | seed path content edit =>
    show Inv (DocService.seedFileContent y s path content edit)
    unfold DocService.seedFileContent
    split
    · exact h.applyUpdate y _
    · exact h

/-- The load goes on. -/
theorem Inv.advance {s : DocService.State E} (h : Inv s) : Inv (DocService.advance y s) := by
  unfold DocService.advance
  split
  · rename_i e hl
    refine h.congr rfl ?_ rfl
    unfold entries
    rw [hl]
    rfl
  · rename_i e snapshot hl
    have hload := loading_of hl
    have hentries : entries { s.setEntry e ⟨(sanitizeProtectedBuffers y (snapshot.getD Doc.empty) true).1,
          (sanitizeProtectedBuffers y (snapshot.getD Doc.empty) true).2, 0, false⟩ with
        docs := some e
        loading := some (e, .settled) } = { entries s with
        counts := (entries s).counts.put e (some 0)
        registered := some e
        loading := some (e, true) } := by
      unfold entries
      rw [Registry.State.mk.injEq]
      exact ⟨Slots.map_put _ s.heap e _, rfl, rfl, rfl, rfl⟩
    constructor
    · dsimp only
      rw [hentries]
      exact h.registry.create hload 0
    · intro d z hd hz
      cases hd
      rw [show State.heap _ e = some _ from Slots.put_self _ _ _, Option.some.injEq] at hz
      subst hz
      obtain ⟨i, hi⟩ := h.registry.awaited e _ hload
      obtain ⟨t, ht, hwait⟩ := Option.bind_eq_some_iff.1 hi
      exact ⟨Int.le_refl 0, rfl, fun _ => ⟨i, t, ht, claims_of_waitsFor hwait⟩⟩
  · rename_i e hl
    exact ⟨h.registry.settle (loading_of hl), fun d z hd hz => ⟨(h.kept d z hd hz).nonneg,
      (h.kept d z hd hz).undestroyed, (h.kept d z hd hz).claimed⟩⟩
  · exact h

omit [DecidableEq E] in
theorem Inv.loadFails {s : DocService.State E} {e : Nat} (h : Inv s) (hl : s.loading = some (e, .reading)) :
    Inv { s with loading := some (e, .settled) } :=
  ⟨h.registry.fail (loading_of hl), fun d z hd hz => ⟨(h.kept d z hd hz).nonneg,
    (h.kept d z hd hz).undestroyed, (h.kept d z hd hz).claimed⟩⟩

/-! ## What each call touches -/

omit [DecidableEq E] in
theorem get_of_tasks {s s' : DocService.State E} {i j : Nat}
    (htasks : s'.tasks = s.tasks ∨ ∃ t, s'.tasks = s.tasks.put i t) (hj : j ≠ i)
    (htaken : (s'.tasks.get j).isSome = true) : (s.tasks.get j).isSome = true := by
  rcases htasks with heq | ⟨t, heq⟩
  · rw [← heq]
    exact htaken
  · rw [heq, Pool.get_put_of_ne hj] at htaken
    exact htaken

omit [DecidableEq E] in
theorem not_taken {s : DocService.State E} {i : Nat} (h : (s.tasks.get i).isSome = false) : s.tasks.get i = none := by
  cases ht : s.tasks.get i with
  | none => rfl
  | some t =>
    rw [ht] at h
    cases h

def clients (s : DocService.State E) : Option Int := s.registered.map fun p => p.2.clients

omit [DecidableEq E] in
theorem clients_of {s : DocService.State E} {e : Nat} {x : CodeEntry E} (hb : s.docs = some e)
    (hx : s.heap e = some x) : clients s = some x.clients := by
  unfold clients
  rw [State.registered_eq_some.2 ⟨hb, hx⟩]
  rfl

omit [DecidableEq E] in
theorem clients_none {s : DocService.State E} (hb : s.docs = none) : clients s = none := by
  unfold clients State.registered
  rw [hb]
  rfl

omit [DecidableEq E] in
/-- An entry written with the count it had. -/
theorem clients_put {s s' : DocService.State E} {e : Nat} {x x' : CodeEntry E} (hx : s.heap e = some x)
    (hheap : s'.heap = s.heap.put e (some x')) (hb : s'.docs = s.docs) (hx' : x'.clients = x.clients) :
    clients s' = clients s := by
  unfold clients State.registered
  rw [hb]
  cases s.docs with
  | none => rfl
  | some d =>
    rw [Option.bind_some, Option.bind_some, hheap]
    by_cases hde : d = e
    · subst hde
      rw [Slots.put_self, hx]
      show some x'.clients = some x.clients
      rw [hx']
    · rw [Slots.put_of_ne _ _ hde]

/-! ## The service counts right -/

omit [DecidableEq E] in
theorem inv_init (snapshot : Option (Doc E)) : Inv (DocService.init snapshot) := by
  refine ⟨⟨?_, ?_, ?_, ?_, ?_, ?_⟩, ?_⟩
  · rintro e ⟨⟩
  · rintro e n ⟨⟩
  · rintro e ⟨⟩
  · rintro e ⟨⟩
  · rintro e b ⟨⟩
  · rintro i e ⟨⟩
  · rintro e x ⟨⟩

theorem sound_retain (snapshot : Option (Doc E)) (s : DocService.State E) (i : Nat) (h : Inv s)
    (hfree : (s.tasks.get i).isSome = false) :
    Inv (DocService.retain s i) ∧ Documents.Effect (V := service y snapshot) s (DocService.retain s i) i ∧
    (((DocService.retain s i).tasks.get i).isSome = true ∧ clients (DocService.retain s i) = clients s ∨
      ((DocService.retain s i).tasks.get i).isSome = false ∧
        ∃ n, clients s = some n ∧ clients (DocService.retain s i) = some (n + 1)) := by
  refine ⟨h.retain (not_taken hfree), ⟨fun j hj => get_of_tasks ?_ hj, .inl rfl⟩, ?_⟩
  · unfold DocService.retain
    split
    · exact .inl rfl
    · split <;> exact .inr ⟨_, rfl⟩
  · unfold DocService.retain
    split
    · rename_i e x hreg
      obtain ⟨hb, hx⟩ := State.registered_eq_some.1 hreg
      refine .inr ⟨hfree, x.clients, clients_of hb hx, ?_⟩
      exact clients_of (s := s.countIn e x) hb (Slots.put_self _ _ _)
    · left
      split
      · refine ⟨?_, rfl⟩
        show ((s.tasks.put i _).get i).isSome = true
        rw [Pool.get_put_self]
        rfl
      · refine ⟨?_, rfl⟩
        show ((s.tasks.put i _).get i).isSome = true
        rw [Pool.get_put_self]
        rfl

theorem sound_enter (snapshot : Option (Doc E)) (s : DocService.State E) (i : Nat) (p : DocService.State E × Bool)
    (h : Inv s) (hp : enter s i = some p) :
    Inv p.1 ∧ Documents.Effect (V := service y snapshot) s p.1 i ∧ (p.1.tasks.get i).isSome = false ∧
    if p.2 then ∃ n, clients s = some n ∧ clients p.1 = some (n + 1) else clients p.1 = clients s := by
  unfold enter at hp
  split at hp
  · rename_i e hi
    obtain ⟨s', hs, rfl⟩ := Option.map_eq_some_iff.1 hp
    simp only [DocService.resume, Option.ite_none_left_eq_some, Option.some.injEq, Bool.not_eq_true] at hs
    obtain ⟨hl, rfl⟩ := hs
    have hended : ∀ s : DocService.State E, ((s.goto i none).tasks.get i).isSome = false := by
      intro s
      show ((s.tasks.put i none).get i).isSome = false
      rw [Pool.get_put_self]
      rfl
    cases hx : s.heap e with
    | none =>
      have hleft : Inv (s.goto i none) := by
        refine h.leaves hi hl fun x hsome => ?_
        rw [hx] at hsome
        cases hsome
      exact ⟨hleft, ⟨fun j hj => get_of_tasks (.inr ⟨_, rfl⟩) hj, .inl rfl⟩, hended _, rfl⟩
    | some x =>
      have hb : s.docs = some e := by
        rcases h.arrived hi hl with hnone | hb
        · rw [hx] at hnone
          cases hnone
        · exact hb
      have hleft : Inv ((s.countIn e x).goto i none) := by
        refine (h.countIn hb hx).leaves hi hl fun z hz => ?_
        rw [show (s.countIn e x).heap e = some _ from Slots.put_self _ _ _, Option.some.injEq] at hz
        have hpos : z.clients = x.clients + 1 := by rw [← hz]
        have := (h.kept e x hb hx).nonneg
        omega
      refine ⟨hleft, ⟨fun j hj => get_of_tasks (.inr ⟨_, rfl⟩) hj, .inl rfl⟩, hended _, ?_⟩
      refine ⟨x.clients, clients_of hb hx, ?_⟩
      exact clients_of (s := (s.countIn e x).goto i none) hb (Slots.put_self _ _ _)
  · cases hp

theorem sound_release (snapshot : Option (Doc E)) (s : DocService.State E) (i : Nat) (n : Int) (h : Inv s)
    (hfree : (s.tasks.get i).isSome = false) (hn : clients s = some n) (hpos : 0 < n) :
    Inv (DocService.release y { s with held := s.held - 1 } i) ∧
    Documents.Effect (V := service y snapshot) s (DocService.release y { s with held := s.held - 1 } i) i ∧
    clients (DocService.release y { s with held := s.held - 1 } i) = some (n - 1) := by
  obtain ⟨⟨e, x⟩, hreg, rfl⟩ := Option.map_eq_some_iff.1 hn
  have hheld : Inv { s with held := s.held - 1 } := h.congr rfl rfl rfl
  have hreg' : ({ s with held := s.held - 1 } : DocService.State E).registered = some (e, x) := hreg
  obtain ⟨hb, hx⟩ := State.registered_eq_some.1 hreg
  refine ⟨hheld.release y (not_taken hfree) hreg' hpos, ⟨fun j hj => get_of_tasks ?_ hj, .inl rfl⟩, ?_⟩
  · unfold DocService.release
    rw [hreg']
    dsimp only
    split_ifs
    · exact .inl rfl
    · exact .inr ⟨_, rfl⟩
  · unfold DocService.release
    rw [hreg']
    dsimp only
    split_ifs
    · exact clients_of (s := { s with held := s.held - 1 }.setEntry e { x with clients := x.clients - 1 }) hb
        (Slots.put_self _ _ _)
    · have hset := clients_of (s := { s with held := s.held - 1 }.setEntry e { x with
        doc := (sanitizeProtectedBuffers y x.doc true).1
        dirty := x.dirty || (sanitizeProtectedBuffers y x.doc true).2
        clients := x.clients - 1
        destroyed := false }) hb (Slots.put_self _ _ _)
      exact hset

theorem sound_update (snapshot : Option (Doc E)) (s : DocService.State E) (u : Change E) (i : Nat) (h : Inv s) :
    Inv (update y s u) ∧ Documents.Effect (V := service y snapshot) s (update y s u) i ∧
    clients (update y s u) = clients s ∧ ((update y s u).tasks.get i).isSome = (s.tasks.get i).isSome := by
  have happly : ∀ v, (DocService.applyUpdate y s v).tasks = s.tasks ∧
      clients (DocService.applyUpdate y s v) = clients s := by
    intro v
    unfold DocService.applyUpdate
    split
    · rename_i e x hreg
      obtain ⟨-, hx⟩ := State.registered_eq_some.1 hreg
      split_ifs
      · exact ⟨rfl, clients_put hx rfl rfl rfl⟩
      · exact ⟨rfl, rfl⟩
    · exact ⟨rfl, rfl⟩
  have hframe : (update y s u).tasks = s.tasks ∧ clients (update y s u) = clients s := by
    cases u with
    | update v => exact happly v
    | seed path content edit =>
      show (DocService.seedFileContent y s path content edit).tasks = s.tasks ∧
        clients (DocService.seedFileContent y s path content edit) = clients s
      unfold DocService.seedFileContent
      split
      · exact happly _
      · exact ⟨rfl, rfl⟩
  refine ⟨h.update y u, ⟨fun j hj => get_of_tasks (.inl hframe.1) hj, .inl rfl⟩, hframe.2, ?_⟩
  rw [hframe.1]

theorem sound_tick (snapshot : Option (Doc E)) (s : DocService.State E) (i : Nat) (h : Inv s)
    (hfree : (s.tasks.get i).isSome = false) :
    Inv (DocService.flushDirty s i) ∧ Documents.Effect (V := service y snapshot) s (DocService.flushDirty s i) i ∧
    clients (DocService.flushDirty s i) = clients s := by
  refine ⟨h.flushDirty (not_taken hfree), ⟨fun j hj => get_of_tasks ?_ hj, .inl rfl⟩, ?_⟩
  · unfold DocService.flushDirty
    split
    · split
      · exact .inr ⟨_, rfl⟩
      · exact .inl rfl
    · exact .inl rfl
  · unfold DocService.flushDirty
    split
    · split <;> rfl
    · rfl

/-- The load registers a new entry without clients, or leaves the counter. -/
theorem advance_spec {s : DocService.State E} (h : Inv s) : (DocService.advance y s).tasks = s.tasks ∧
    (clients (DocService.advance y s) = clients s ∨
      clients s = none ∧ clients (DocService.advance y s) = some 0) := by
  unfold DocService.advance
  split
  · exact ⟨rfl, .inl rfl⟩
  · rename_i e snapshot hl
    obtain ⟨-, -, hnone⟩ := h.registry.pending e (loading_of hl)
    refine ⟨rfl, .inr ⟨clients_none hnone, ?_⟩⟩
    exact clients_of (s := { s.setEntry e ⟨(sanitizeProtectedBuffers y (snapshot.getD Doc.empty) true).1,
        (sanitizeProtectedBuffers y (snapshot.getD Doc.empty) true).2, 0, false⟩ with
      docs := some e
      loading := some (e, .settled) }) rfl (Slots.put_self _ _ _)
  · exact ⟨rfl, .inl rfl⟩
  · exact ⟨rfl, .inl rfl⟩

omit [DecidableEq E] in
/-- A flush that goes on leaves the counter, or deletes an entry nobody holds. -/
theorem resume_cases {s s' : DocService.State E} {i : Nat} {t : DocService.Task E} (hwait : waitsFor t = none)
    (hs : DocService.resume s i t = some s') (hsafe : ∀ e stored, t = .flushed .release e stored → unheld s = true) :
    (∃ u, s'.tasks = s.tasks.put i u) ∧ (clients s' = clients s ∨ clients s = some 0 ∧ clients s' = none) := by
  cases t with
  | retain e => cases hwait
  | put caller e body =>
    cases hs
    exact ⟨⟨_, rfl⟩, .inl rfl⟩
  | flushed caller e stored =>
    cases caller with
    | release =>
      obtain ⟨x, hx, rfl⟩ := Option.map_eq_some_iff.1 hs
      refine ⟨⟨none, rfl⟩, ?_⟩
      have hend := hsafe e stored rfl
      unfold unheld at hend
      cases hreg : s.registered with
      | none =>
        left
        unfold clients
        rw [hreg]
        rfl
      | some p =>
        rw [hreg] at hend
        simp only [Bool.and_eq_true, beq_iff_eq] at hend
        refine .inr ⟨?_, clients_none rfl⟩
        unfold clients
        rw [hreg, Option.map_some, hend.1]
    | timer =>
      obtain ⟨x, hx, rfl⟩ := Option.map_eq_some_iff.1 hs
      exact ⟨⟨none, rfl⟩, .inl (clients_put hx rfl rfl rfl)⟩

theorem sound_step (s s' : DocService.State E) (e : Flow) (h : Inv s) (hsafe : safeStep s e = true)
    (hs : step y s e = some s') :
    Inv s' ∧ (∀ j, (s'.tasks.get j).isSome = true → (s.tasks.get j).isSome = true) ∧
    (clients s' = clients s ∨ clients s = none ∧ clients s' = some 0 ∨ clients s = some 0 ∧ clients s' = none) := by
  have hput : ∀ {s' : DocService.State E} {i t} (u : Option (DocService.Task E)), s.tasks.get i = some t →
      s'.tasks = s.tasks.put i u → ∀ j, (s'.tasks.get j).isSome = true → (s.tasks.get j).isSome = true := by
    intro s' i t u ht htasks j hj
    by_cases hji : j = i
    · rw [hji, ht]
      rfl
    · exact get_of_tasks (.inr ⟨u, htasks⟩) hji hj
  cases e with
  | load =>
    obtain ⟨l, -, rfl⟩ := Option.map_eq_some_iff.1 hs
    obtain ⟨htasks, hclients⟩ := advance_spec y h
    refine ⟨h.advance y, fun j hj => ?_, ?_⟩
    · rw [← htasks]
      exact hj
    · rcases hclients with hsame | hnew
      · exact .inl hsame
      · exact .inr (.inl hnew)
  | loadFails =>
    unfold step DocService.step at hs
    dsimp only at hs
    split at hs
    · rename_i e hl
      cases hs
      exact ⟨h.loadFails hl, fun _ hj => hj, .inl rfl⟩
    · cases hs
  | resume i =>
    unfold step at hs
    simp only [Option.ite_none_right_eq_some] at hs
    obtain ⟨hwait, hs⟩ := hs
    obtain ⟨t, ht, hs⟩ := Option.bind_eq_some_iff.1 hs
    have hwait : waitsFor t = none := by
      rw [ht] at hwait
      exact Option.isNone_iff_eq_none.1 hwait
    have hunheld : ∀ e stored, t = .flushed .release e stored → unheld s = true := by
      rintro e stored rfl
      simpa only [safeStep, ht] using hsafe
    obtain ⟨⟨u, htasks⟩, hclients⟩ := resume_cases hwait hs hunheld
    refine ⟨h.resume ht hwait hs fun e stored heq d hd => ?_, hput u ht htasks, ?_⟩
    · have hend := hunheld e stored heq
      unfold unheld at hend
      split at hend
      · rename_i b x hreg
        rw [Bool.and_eq_true] at hend
        obtain ⟨hb, -⟩ := State.registered_eq_some.1 hreg
        rw [← Option.some.inj (hb.symm.trans hd)]
        exact hend.2
      · rename_i hnone
        cases (h.registered_eq_none.1 hnone).symm.trans hd
    · rcases hclients with hsame | hend
      · exact .inl hsame
      · exact .inr (.inr hend)
  | putFails i stored =>
    unfold step DocService.step at hs
    dsimp only at hs
    split at hs
    · rename_i caller e body ht
      cases hs
      have hgone : Inv (s.goto i (some (.flushed caller e false))) := by
        refine h.goto (waits_of ht) rfl fun d _ hclaim => ?_
        rw [ht] at hclaim
        cases caller <;> exact hclaim
      exact ⟨hgone.congr rfl rfl rfl, hput _ ht rfl, .inl rfl⟩
    · cases hs

/-- The code documents count their clients right, as long as no entry is taken away from anyone. -/
theorem sound (snapshot : Option (Doc E)) : Documents.Sound (service y snapshot) Inv where
  init := ⟨inv_init snapshot, rfl⟩
  retain := sound_retain y snapshot
  enter := sound_enter y snapshot
  release s i n h hfree _ hn hpos := by
    obtain ⟨hinv, heffect, hclients⟩ := sound_release y snapshot s i n h hfree hn hpos
    exact ⟨hinv, heffect, .inl hclients⟩
  update := sound_update y snapshot
  tick := sound_tick y snapshot
  step s e s' h hsafe hs := by
    obtain ⟨hinv, htaken, hclients⟩ := sound_step y s s' e h hsafe hs
    exact ⟨hinv, htaken, .inl rfl, hclients⟩
  alive s h := by
    show s.registered.any (fun p => p.2.destroyed) = false
    cases hreg : s.registered with
    | none => rfl
    | some p =>
      obtain ⟨hb, hx⟩ := State.registered_eq_some.1 hreg
      rw [Option.any_some]
      exact (h.kept p.1 p.2 hb hx).undestroyed
  left s h hcalls hzero := by
    obtain ⟨⟨e, x⟩, hreg, hx⟩ := Option.map_eq_some_iff.1 hzero
    obtain ⟨hb, hheap⟩ := State.registered_eq_some.1 hreg
    obtain ⟨i, t, ht, hclaim⟩ := (h.kept e x hb hheap).claimed hx
    have hnone := List.any_eq_false.1 hcalls _ (Pool.mem_of_get ht)
    rw [hclaim] at hnone
    exact absurd rfl hnone

end Livetich.Code.References
