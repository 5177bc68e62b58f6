/-
The code document keeps every accepted text edit as long as nothing happens around the final flush
of a session: in every run in which no retain completes and no update is accepted while a last
release flushes, the flush succeeds, and puts land in order, each such edit is in the registered
document or the snapshot, or its entry is dirty, and no entry with clients is destroyed or removed.

`release` destroys the entry after its flush without looking: a failed final put, an edit or a
rejoin during the flush are all lost, where the board's `release` checks for each of them. The runs
after the theorem show both.
-/
import Mathlib.Data.Finset.Card
import Mathlib.Data.Finset.Lattice.Lemmas
import Livetich.Lib.WriteBack
import Livetich.Code.DocService

namespace Livetich.Code.DocService

open TransSys

variable {E : Type} [DecidableEq E] (y : Yjs E)

/-! ## The code document as a write-back cache -/

namespace State

/-- The text edits of files that a load of the snapshot would give. -/
def stored (s : State E) : Finset (String × E) :=
  (s.snapshot.map fun d => (compacted y d).fileEdits).getD ∅

omit [DecidableEq E] in
/-- The document of the registered entry. -/
def liveDoc (s : State E) : Option (Doc E) := s.registered.map (·.2.doc)

def cache (s : State E) : WriteBack.State (Finset (String × E)) :=
  ⟨s.stored y, s.liveDoc.map (·.fileEdits), s.accepted⟩

end State

omit [DecidableEq E] in
/-- Every accepted text edit is in the registered document, in the stored snapshot, or waits in a
dirty entry. -/
def Kept (s : State E) : Prop :=
  ∀ a ∈ s.accepted, (∃ d, s.liveDoc = some d ∧ a ∈ d.edits) ∨
    (∃ d, s.snapshot = some d ∧ a ∈ d.edits) ∨ ∃ p, s.registered = some p ∧ p.2.dirty = true

omit [DecidableEq E] in
/-- No entry with clients is destroyed or, if it is registered, leaves the map. -/
def SparesRetained (s s' : State E) : Prop :=
  ∀ e x, s.heap e = some x → 0 < x.clients →
    (∀ x', s'.heap e = some x' → x'.destroyed = true → x.destroyed = true) ∧
    (s.docs = some e → s'.docs = some e)

/-! ## The conditions -/

namespace Task

omit [DecidableEq E]

/-- The flush of a last release. -/
def finalFlush : Task E → Bool
  | .put .release .. => true
  | .flushed .release .. => true
  | _ => false

def isRetain : Task E → Bool
  | .retain _ => true
  | _ => false

end Task

/-- A put that lands replaces no text edit its own document lacks. -/
def InOrder (s : State E) : Task E → Prop
  | .put _ _ body => s.stored y ⊆ body.fileEdits
  | _ => True

omit [DecidableEq E] in
/-- No last release is flushing. -/
def Idle (s : State E) : Prop := ∀ p ∈ s.tasks.entries, p.2.finalFlush = false

/-- Puts land in order, and while a last release flushes its put is not rejected, no retain
completes and no update is accepted. -/
def Quiet (s : State E) : Event E → Prop
  | .retain _ => s.registered.isSome = true → Idle s
  | .applyUpdate u => accepts y s u = true → Idle s
  | .seedFileContent path content edit =>
    (seedOf y s path content edit).any (accepts y s) = true → Idle s
  | .resume i => ∀ t ∈ s.tasks.get i, InOrder y s t ∧ (t.isRetain = true → Idle s)
  | .putFails i stored => ∀ t ∈ s.tasks.get i, t.finalFlush = false ∧ (stored = true → InOrder y s t)
  | _ => True

instance : ∀ (s : State E) t, Decidable (InOrder y s t)
  | s, .put _ _ body => inferInstanceAs (Decidable (s.stored y ⊆ body.fileEdits))
  | _, .retain .. | _, .flushed .. => inferInstanceAs (Decidable True)

instance (s : State E) : Decidable (Idle s) :=
  inferInstanceAs (Decidable (∀ p ∈ s.tasks.entries, p.2.finalFlush = false))

instance : ∀ (s : State E) e, Decidable (Quiet y s e)
  | s, .retain _ => inferInstanceAs (Decidable (s.registered.isSome = true → Idle s))
  | s, .applyUpdate u => inferInstanceAs (Decidable (accepts y s u = true → Idle s))
  | s, .seedFileContent path content edit => inferInstanceAs (Decidable
      ((seedOf y s path content edit).any (accepts y s) = true → Idle s))
  | s, .resume i => inferInstanceAs (Decidable
      (∀ t ∈ s.tasks.get i, InOrder y s t ∧ (t.isRetain = true → Idle s)))
  | s, .putFails i stored => inferInstanceAs (Decidable
      (∀ t ∈ s.tasks.get i, t.finalFlush = false ∧ (stored = true → InOrder y s t)))
  | _, .release _ | _, .tick _ | _, .load | _, .loadFails => inferInstanceAs (Decidable True)

/-! ## The invariant -/

/-- The entry a last release flushes, with the text edits that are or will be stored by then. -/
def Task.cover (stored : Finset (String × E)) : Task E → Option (Nat × Finset (String × E))
  | .put .release e body => some (e, stored ∪ body.fileEdits)
  | .flushed .release e _ => some (e, stored)
  | _ => none

omit [DecidableEq E] in
/-- What may be deleted is covered, and nobody holds it. -/
structure Covered (s : State E) (p : Nat × Finset (String × E)) : Prop where
  live : ∀ d, s.liveDoc = some d → d.fileEdits ⊆ p.2
  entry : ∀ x, s.heap p.1 = some x → x.clients ≤ 0
  registered : ∀ e x, s.registered = some (e, x) → x.clients ≤ 0

structure Inv (s : State E) : Prop where
  registered : ∀ e, s.docs = some e → ∃ x, s.heap e = some x
  numbered : ∀ e x, s.heap e = some x → e < s.nextEntry
  /-- Until a load is settled nothing is registered, and its entry is not there yet. -/
  pending : ∀ e l, s.loading = some (e, l) →
    e < s.nextEntry ∧ (l = .settled ∨ s.heap e = none ∧ s.docs = none)
  read : ∀ e snapshot, s.loading = some (e, .read snapshot) →
    (compacted y (snapshot.getD Doc.empty)).fileEdits ⊆ s.stored y
  tidy : ∀ e x, s.heap e = some x → Tidy y x.doc
  bodies : ∀ i caller e body, s.tasks.get i = some (.put caller e body) → Tidy y body
  covers : ∀ i t p, s.tasks.get i = some t → t.cover (s.stored y) = some p → Covered s p
  durable : (s.cache y).Durable

variable {y}

theorem inv_init (snapshot : Option (Doc E)) : Inv y (init snapshot) where
  registered := by simp [init]
  numbered := by simp [init]
  pending := by simp [init]
  read := by simp [init]
  tidy := by simp [init]
  bodies := by simp [init]
  covers := by simp [init]
  durable := by simp [init, State.cache, WriteBack.State.Durable]

/-! ## What the pieces of a step keep -/

theorem cover_of_idle {s : State E} (h : Idle s) {i : Nat} {t : Task E} (ht : s.tasks.get i = some t)
    (stored : Finset (String × E)) : t.cover stored = none := by
  have hfinal := h (i, t) (Pool.mem_of_get ht)
  cases t with
  | retain e => rfl
  | put caller e body =>
    cases caller with
    | release => cases hfinal
    | timer => rfl
  | flushed caller e ok =>
    cases caller with
    | release => cases hfinal
    | timer => rfl

theorem cover_mono {t : Task E} {a b : Finset (String × E)} (hab : a ⊆ b)
    {q : Nat × Finset (String × E)} (hq : t.cover b = some q) :
    ∃ p, t.cover a = some p ∧ p.1 = q.1 ∧ p.2 ⊆ q.2 := by
  cases t with
  | retain e => cases hq
  | put caller e body =>
    cases caller with
    | release =>
      cases hq
      exact ⟨_, rfl, rfl, Finset.union_subset_union hab subset_rfl⟩
    | timer => cases hq
  | flushed caller e ok =>
    cases caller with
    | release => cases hq; exact ⟨_, rfl, rfl, hab⟩
    | timer => cases hq

theorem stored_subset_cover {t : Task E} {stored : Finset (String × E)}
    {p : Nat × Finset (String × E)} (h : t.cover stored = some p) : stored ⊆ p.2 := by
  unfold Task.cover at h
  split at h
  · cases h; exact Finset.subset_union_left
  · cases h; exact subset_rfl
  · cases h

omit [DecidableEq E] in
theorem Covered.mono {s : State E} {p q : Nat × Finset (String × E)} (h : Covered s p)
    (he : p.1 = q.1) (hle : p.2 ⊆ q.2) : Covered s q :=
  ⟨fun d hd => (h.live d hd).trans hle, he ▸ h.entry, h.registered⟩

omit [DecidableEq E] in
theorem registered_setEntry {s : State E} {e : Nat} {x w : CodeEntry E} (hx : s.heap e = some x) :
    ∀ b z, (s.setEntry e w).registered = some (b, z) →
      ∃ z₀, s.registered = some (b, z₀) ∧ ((b = e ∧ z₀ = x ∧ z = w) ∨ (b ≠ e ∧ z₀ = z)) := by
  intro b z hz
  obtain ⟨hb, hz⟩ := State.registered_eq_some.1 hz
  have hput : s.heap.put e (some w) b = some z := hz
  rcases Slots.put_eq_some hput with ⟨rfl, hxz⟩ | ⟨hne, hbz⟩
  · exact ⟨x, State.registered_eq_some.2 ⟨hb, hx⟩, .inl ⟨rfl, rfl, (Option.some.inj hxz).symm⟩⟩
  · exact ⟨z, State.registered_eq_some.2 ⟨hb, hbz⟩, .inr ⟨hne, rfl⟩⟩

omit [DecidableEq E] in
/-- Neither a document of the same edits nor fewer clients uncovers an entry. -/
theorem Covered.setEntry {s : State E} {e : Nat} {x w : CodeEntry E} (hx : s.heap e = some x)
    (hedits : w.doc.fileEdits = x.doc.fileEdits) (hclients : w.clients ≤ x.clients)
    {p : Nat × Finset (String × E)} (h : Covered s p) : Covered (s.setEntry e w) p where
  live := by
    intro d hd
    obtain ⟨⟨b, z⟩, hz, rfl⟩ := Option.map_eq_some_iff.1 hd
    obtain ⟨z₀, hz₀, ⟨rfl, rfl, rfl⟩ | ⟨-, rfl⟩⟩ := registered_setEntry hx b z hz
    · show z.doc.fileEdits ⊆ p.2
      rw [hedits]
      exact h.live _ (by unfold State.liveDoc; rw [hz₀]; rfl)
    · exact h.live _ (by unfold State.liveDoc; rw [hz₀]; rfl)
  entry := by
    intro z hz
    rcases Slots.put_eq_some hz with ⟨he, hz⟩ | ⟨-, hz⟩
    · cases hz
      exact hclients.trans (h.entry x (he ▸ hx))
    · exact h.entry z hz
  registered := by
    intro b z hz
    obtain ⟨z₀, hz₀, ⟨rfl, rfl, rfl⟩ | ⟨-, rfl⟩⟩ := registered_setEntry hx b z hz
    · exact hclients.trans (h.registered _ _ hz₀)
    · exact h.registered _ _ hz₀

omit [DecidableEq E] in
theorem liveEdits_setEntry {s : State E} {e : Nat} {x w : CodeEntry E} (hx : s.heap e = some x)
    (hedits : w.doc.fileEdits = x.doc.fileEdits) :
    (s.setEntry e w).liveDoc.map (·.fileEdits) = s.liveDoc.map (·.fileEdits) := by
  unfold State.liveDoc State.registered State.setEntry
  cases hb : s.docs with
  | none => rfl
  | some b =>
    by_cases hbe : b = e
    · subst hbe; simp [hx, hedits]
    · simp [Slots.put_of_ne _ _ hbe]

namespace Inv

variable {s : State E}

/-- A task may go on to any task that is covered. -/
theorem goto (h : Inv y s) (i : Nat) {t : Option (Task E)}
    (hbody : ∀ caller e body, t = some (.put caller e body) → Tidy y body)
    (hcover : ∀ u ∈ t, ∀ p, u.cover (s.stored y) = some p → Covered s p) : Inv y (s.goto i t) where
  registered := h.registered
  numbered := h.numbered
  pending := h.pending
  read := h.read
  tidy := h.tidy
  bodies := by
    intro j caller e body hu
    rcases Pool.get_put_cases hu with ⟨-, hu⟩ | ⟨-, hu⟩
    · exact hbody caller e body hu
    · exact h.bodies j caller e body hu
  covers := by
    intro j u p hu hp
    rw [State.goto, Pool.get_put] at hu
    have hcov : Covered s p := by
      rcases Slots.put_eq_some hu with ⟨-, hu⟩ | ⟨-, hu⟩
      · exact hcover u hu p hp
      · exact h.covers j u p hu hp
    exact ⟨hcov.live, hcov.entry, hcov.registered⟩
  durable := h.durable

theorem done (h : Inv y s) (i : Nat) : Inv y (s.goto i none) :=
  h.goto i (by intro _ _ _ hu; cases hu) (by intro u hu; cases hu)

/-- Writing to an entry in the heap. -/
theorem write (h : Inv y s) {e : Nat} {x w : CodeEntry E} (hx : s.heap e = some x)
    (htidy : Tidy y w.doc)
    (hcover : ∀ i t p, s.tasks.get i = some t → t.cover (s.stored y) = some p →
      Covered (s.setEntry e w) p)
    (accepted : Finset (String × E))
    (hd : WriteBack.State.Durable
      ⟨s.stored y, (s.setEntry e w).liveDoc.map (·.fileEdits), accepted⟩) :
    Inv y { s.setEntry e w with accepted := accepted } where
  registered := by
    intro b hb
    by_cases hbe : b = e
    · exact ⟨w, by rw [hbe]; exact Slots.put_self ..⟩
    · obtain ⟨z, hz⟩ := h.registered b hb
      exact ⟨z, by rw [← hz]; exact Slots.put_of_ne _ _ hbe⟩
  numbered := by
    intro b z hz
    rcases Slots.put_eq_some hz with ⟨rfl, -⟩ | ⟨-, hz⟩
    · exact h.numbered _ _ hx
    · exact h.numbered b z hz
  pending := by
    intro b l hl
    obtain ⟨hlt, hl⟩ := h.pending b l hl
    refine ⟨hlt, hl.imp_right fun ⟨hnone, hdocs⟩ => ⟨?_, hdocs⟩⟩
    have hbe : b ≠ e := by rintro rfl; rw [hx] at hnone; cases hnone
    show s.heap.put e (some w) b = none
    rw [Slots.put_of_ne _ _ hbe]; exact hnone
  read := h.read
  tidy := by
    intro b z hz
    rcases Slots.put_eq_some hz with ⟨-, hz⟩ | ⟨-, hz⟩
    · cases hz; exact htidy
    · exact h.tidy b z hz
  bodies := h.bodies
  covers := by
    intro i t p ht hp
    have hcov := hcover i t p ht hp
    exact ⟨hcov.live, hcov.entry, hcov.registered⟩
  durable := hd

/-- An entry keeps the edits of its document and gains no client. -/
theorem setEntry (h : Inv y s) {e : Nat} {x w : CodeEntry E} (hx : s.heap e = some x)
    (htidy : Tidy y w.doc) (hedits : w.doc.fileEdits = x.doc.fileEdits)
    (hclients : w.clients ≤ x.clients) : Inv y (s.setEntry e w) := by
  refine h.write hx htidy (fun i t p ht hp => (h.covers i t p ht hp).setEntry hx hedits hclients)
    s.accepted ?_
  rw [liveEdits_setEntry hx hedits]
  exact h.durable

theorem countIn (h : Inv y s) (hidle : Idle s) {e : Nat} {x : CodeEntry E} (hx : s.heap e = some x) :
    Inv y (s.countIn e x) := by
  have hlive := liveEdits_setEntry hx (w := { x with clients := x.clients + 1 }) rfl
  have h' := h.write hx (w := { x with clients := x.clients + 1 }) (h.tidy e x hx)
    (fun i t p ht hp => by rw [cover_of_idle hidle ht] at hp; cases hp) s.accepted
    (by rw [hlive]; exact h.durable)
  refine { h' with covers := fun i t p ht hp => ?_ }
  have hcov := h'.covers i t p ht hp
  exact ⟨hcov.live, hcov.entry, hcov.registered⟩

/-- A put lands that covers the snapshot it replaces. -/
theorem land (h : Inv y s) {body : Doc E} (htidy : Tidy y body) (hle : s.stored y ⊆ body.fileEdits) :
    Inv y { s with snapshot := some body } ∧
      ({ s with snapshot := some body } : State E).stored y = body.fileEdits := by
  have hstored : ({ s with snapshot := some body } : State E).stored y = body.fileEdits :=
    htidy.fileEdits_compacted
  refine ⟨⟨h.registered, h.numbered, h.pending, ?_, h.tidy, h.bodies, ?_, ?_⟩, hstored⟩
  · intro e snapshot hl
    rw [hstored]
    exact (h.read e snapshot hl).trans hle
  · intro i t q ht hq
    rw [hstored] at hq
    obtain ⟨p, hp, he, hpq⟩ := cover_mono hle hq
    have hcov := (h.covers i t p ht hp).mono he hpq
    exact ⟨hcov.live, hcov.entry, hcov.registered⟩
  · have := (WriteBack.Step.land body.fileEdits (s := s.cache y) hle).durable h.durable
    unfold State.cache
    rw [hstored]
    exact this

/-- The registered entry leaves the map once its edits are stored. -/
theorem evict (h : Inv y s) (hsafe : ∀ d, s.liveDoc = some d → d.fileEdits ⊆ s.stored y) :
    Inv y { s with docs := none } where
  registered := by intro e he; cases he
  numbered := h.numbered
  pending := fun e l hl => ⟨(h.pending e l hl).1, (h.pending e l hl).2.imp_right fun hp => ⟨hp.1, rfl⟩⟩
  read := h.read
  tidy := h.tidy
  bodies := h.bodies
  covers := by
    intro i t p ht hp
    exact ⟨fun d hd => (by cases hd), (h.covers i t p ht hp).entry, fun e x hx => (by cases hx)⟩
  durable := by
    refine (WriteBack.Step.evict (s := s.cache y) fun edits hlive => ?_).durable h.durable
    obtain ⟨d, hd, rfl⟩ := Option.map_eq_some_iff.1 hlive
    exact hsafe d hd

/-- A load registers what it has read. -/
theorem register (h : Inv y s) {e : Nat} {snapshot : Option (Doc E)}
    (hl : s.loading = some (e, .read snapshot)) : Inv y (advance y s) := by
  obtain ⟨hlt, hp⟩ := h.pending e _ hl
  obtain ⟨hnone, hdocs⟩ : s.heap e = none ∧ s.docs = none := by
    rcases hp with hp | hp
    · cases hp
    · exact hp
  have hread := h.read e snapshot hl
  have htidy := tidy_compacted y (snapshot.getD Doc.empty)
  let x : CodeEntry E := ⟨compacted y (snapshot.getD Doc.empty), true, 0, false⟩
  have hnew : ({ s.setEntry e x with docs := some e, loading := some (e, .settled) } :
      State E).registered = some (e, x) :=
    State.registered_eq_some.2 ⟨rfl, Slots.put_self ..⟩
  have hadvance : advance y s =
      { s.setEntry e x with docs := some e, loading := some (e, .settled) } := by
    unfold advance
    rw [hl]
    simp only [sanitizeProtectedBuffers, Bool.not_true, Bool.and_false, Bool.false_eq_true, if_false]
    rfl
  rw [hadvance]
  constructor
  · intro b hb
    cases hb
    exact ⟨_, Slots.put_self ..⟩
  · intro b z hz
    rcases Slots.put_eq_some hz with ⟨rfl, -⟩ | ⟨-, hz⟩
    · exact hlt
    · exact h.numbered b z hz
  · intro b l hb
    cases hb
    exact ⟨hlt, .inl rfl⟩
  · intro b snap hb
    cases hb
  · intro b z hz
    rcases Slots.put_eq_some hz with ⟨-, hz⟩ | ⟨-, hz⟩
    · cases hz; exact htidy
    · exact h.tidy b z hz
  · exact h.bodies
  · intro i t p ht hp
    have hstored := stored_subset_cover hp
    refine ⟨fun d hd => ?_, fun z hz => ?_, fun b z hz => ?_⟩
    · unfold State.liveDoc at hd
      rw [hnew] at hd
      cases hd
      exact hread.trans hstored
    · rcases Slots.put_eq_some hz with ⟨-, hz⟩ | ⟨-, hz⟩
      · cases hz; exact le_rfl
      · exact (h.covers i t p ht hp).entry z hz
    · rw [hnew] at hz
      cases hz
      exact le_rfl
  · have hlive : (s.cache y).live = none := by
      simp [State.cache, State.liveDoc, State.registered, hdocs]
    have hd := (WriteBack.Step.load x.doc.fileEdits hlive).durable h.durable
    unfold State.cache State.liveDoc
    rw [hnew]
    exact hd

theorem applyUpdate (h : Inv y s) {u : Update E} (hidle : accepts y s u = true → Idle s) :
    Inv y (applyUpdate y s u) := by
  unfold DocService.applyUpdate
  split
  · rename_i e x hreg
    obtain ⟨hdocs, hx⟩ := State.registered_eq_some.1 hreg
    split
    · rename_i hcheck
      have hidle' : Idle s := hidle (by unfold accepts; rw [hreg]; exact hcheck)
      refine h.write hx (tidy_of_checkCandidate hcheck)
        (fun i t p ht hp => by rw [cover_of_idle hidle' ht] at hp; cases hp) _ ?_
      have hlive : (s.cache y).live = some x.doc.fileEdits := by
        simp [State.cache, State.liveDoc, hreg]
      have hnew : (s.setEntry e { x with
          doc := y.merge x.doc u, dirty := true, destroyed := false }).registered =
          some (e, { x with doc := y.merge x.doc u, dirty := true, destroyed := false }) :=
        State.registered_eq_some.2 ⟨hdocs, Slots.put_self ..⟩
      have hd := (WriteBack.Step.accept u.fileEdits hlive).durable h.durable
      unfold State.liveDoc
      rw [hnew]
      show WriteBack.State.Durable ⟨_, some (y.merge x.doc u).fileEdits, _⟩
      rw [merge_fileEdits]
      exact hd
    · exact h
  · exact h

end Inv

/-! ## Every step -/

section

omit [DecidableEq E]

theorem spares_of_frame {s s' : State E} (hheap : s'.heap = s.heap) (hdocs : s'.docs = s.docs) :
    SparesRetained s s' := by
  intro e x hx _
  refine ⟨fun x' hx' hd => ?_, fun he => hdocs.trans he⟩
  rw [hheap, hx] at hx'
  cases hx'
  exact hd

theorem spares_of_write {s s' : State E} {e : Nat} {x w : CodeEntry E} (hx : s.heap e = some x)
    (hheap : s'.heap = s.heap.put e (some w)) (hdocs : s'.docs = s.docs)
    (hd : w.destroyed = true → x.destroyed = true) : SparesRetained s s' := by
  intro b z hz _
  refine ⟨fun z' hz' hdest => ?_, fun hb => hdocs.trans hb⟩
  rw [hheap] at hz'
  rcases Slots.put_eq_some hz' with ⟨rfl, heq⟩ | ⟨-, hz'⟩
  · cases heq
    rw [hx] at hz
    cases hz
    exact hd hdest
  · rw [hz] at hz'
    cases hz'
    exact hdest

end

theorem retain_step {s : State E} (h : Inv y s) {i : Nat}
    (hidle : s.registered.isSome = true → Idle s) :
    Inv y (retain s i) ∧ SparesRetained s (retain s i) := by
  unfold retain
  split
  · rename_i e x hreg
    obtain ⟨-, hx⟩ := State.registered_eq_some.1 hreg
    exact ⟨h.countIn (hidle (by rw [hreg]; rfl)) hx, spares_of_write hx rfl rfl id⟩
  · rename_i hreg
    split
    · exact ⟨h.goto i (by intro _ _ _ ht; cases ht) (by intro t ht p hp; cases ht; cases hp),
        spares_of_frame rfl rfl⟩
    · have hdocs : s.docs = none := by
        cases hb : s.docs with
        | none => rfl
        | some e =>
          obtain ⟨x, hx⟩ := h.registered e hb
          rw [State.registered_eq_some.2 ⟨hb, hx⟩] at hreg
          cases hreg
      have hfresh : s.heap s.nextEntry = none := by
        cases hx : s.heap s.nextEntry with
        | none => rfl
        | some x => exact absurd (h.numbered _ x hx) (lt_irrefl _)
      have h' : Inv y { s with
          loading := some (s.nextEntry, .reading)
          nextEntry := s.nextEntry + 1 } :=
        { registered := h.registered
          numbered := fun e x hx => Nat.lt_succ_of_lt (h.numbered e x hx)
          pending := by
            intro e l hl
            cases hl
            exact ⟨Nat.lt_succ_self _, .inr ⟨hfresh, hdocs⟩⟩
          read := by intro e snapshot hl; cases hl
          tidy := h.tidy
          bodies := h.bodies
          covers := fun i t p ht hp => { h.covers i t p ht hp with }
          durable := h.durable }
      exact ⟨h'.goto i (by intro _ _ _ ht; cases ht) (by intro t ht p hp; cases ht; cases hp),
        spares_of_frame rfl rfl⟩

theorem release_step {s : State E} (h : Inv y s) (i : Nat) :
    Inv y (release y s i) ∧ SparesRetained s (release y s i) := by
  unfold release
  split
  · rename_i e x hreg
    obtain ⟨hdocs, hx⟩ := State.registered_eq_some.1 hreg
    dsimp only
    split
    · refine ⟨h.setEntry hx (h.tidy e x hx) rfl ?_, spares_of_write hx rfl rfl id⟩
      show x.clients - 1 ≤ x.clients
      omega
    · rename_i hclients
      simp only [sanitizeProtectedBuffers, Bool.not_true, Bool.and_false, Bool.false_eq_true, if_false]
      have htidy := tidy_compacted y x.doc
      have hedits := (h.tidy e x hx).fileEdits_compacted
      have h' := h.setEntry hx htidy hedits (w := { x with
        doc := compacted y x.doc
        dirty := x.dirty || true
        clients := x.clients - 1
        destroyed := false }) (by show x.clients - 1 ≤ x.clients; omega)
      refine ⟨h'.goto i (by intro _ _ _ ht; cases ht; exact htidy) ?_,
        spares_of_write hx rfl rfl (by intro hd; cases hd)⟩
      intro t ht p hp
      cases ht
      cases hp
      -- the entry released is the registered one
      refine ⟨fun d hd => ?_, fun z hz => ?_, fun b z hz => ?_⟩
      · obtain ⟨⟨b, z⟩, hz, rfl⟩ := Option.map_eq_some_iff.1 hd
        obtain ⟨z₀, hz₀, ⟨-, -, rfl⟩ | ⟨hne, -⟩⟩ := registered_setEntry hx b z hz
        · exact Finset.subset_union_right
        · exact absurd (Option.some.inj ((State.registered_eq_some.1 hz₀).1.symm.trans hdocs)) hne
      · have hput : s.heap.put e _ e = some z := hz
        rw [Slots.put_self] at hput
        cases hput
        show x.clients - 1 ≤ 0
        omega
      · obtain ⟨z₀, hz₀, ⟨-, -, rfl⟩ | ⟨hne, -⟩⟩ := registered_setEntry hx b z hz
        · show x.clients - 1 ≤ 0
          omega
        · exact absurd (Option.some.inj ((State.registered_eq_some.1 hz₀).1.symm.trans hdocs)) hne
  · exact ⟨h, spares_of_frame rfl rfl⟩

theorem applyUpdate_step {s : State E} (h : Inv y s) {u : Update E}
    (hidle : accepts y s u = true → Idle s) :
    Inv y (applyUpdate y s u) ∧ SparesRetained s (applyUpdate y s u) := by
  refine ⟨h.applyUpdate hidle, ?_⟩
  unfold applyUpdate
  split
  · rename_i e x hreg
    obtain ⟨-, hx⟩ := State.registered_eq_some.1 hreg
    split
    · exact spares_of_write hx rfl rfl (by intro hd; cases hd)
    · exact spares_of_frame rfl rfl
  · exact spares_of_frame rfl rfl

theorem flushDirty_step {s : State E} (h : Inv y s) (i : Nat) :
    Inv y (flushDirty s i) ∧ SparesRetained s (flushDirty s i) := by
  unfold flushDirty
  split
  · rename_i e x hreg
    obtain ⟨-, hx⟩ := State.registered_eq_some.1 hreg
    split
    · refine ⟨h.goto i ?_ (by intro t ht p hp; cases ht; cases hp), spares_of_frame rfl rfl⟩
      intro caller e' body ht
      cases ht
      exact h.tidy e x hx
    · exact ⟨h, spares_of_frame rfl rfl⟩
  · exact ⟨h, spares_of_frame rfl rfl⟩

/-- The load's own steps before and after it registers its entry. -/
theorem Inv.setLoading {s : State E} (h : Inv y s) {l : Option (Nat × Load E)}
    (hpending : ∀ e p, l = some (e, p) → e < s.nextEntry ∧ (p = .settled ∨ s.heap e = none ∧ s.docs = none))
    (hread : ∀ e snapshot, l = some (e, .read snapshot) →
      (compacted y (snapshot.getD Doc.empty)).fileEdits ⊆ s.stored y) :
    Inv y { s with loading := l } where
  registered := h.registered
  numbered := h.numbered
  pending := hpending
  read := hread
  tidy := h.tidy
  bodies := h.bodies
  covers := fun i t p ht hp => { h.covers i t p ht hp with }
  durable := h.durable

theorem advance_step {s : State E} (h : Inv y s) :
    Inv y (advance y s) ∧ SparesRetained s (advance y s) := by
  cases hl : s.loading with
  | none =>
    unfold advance; rw [hl]
    exact ⟨h, spares_of_frame rfl rfl⟩
  | some p =>
    obtain ⟨e, l⟩ := p
    obtain ⟨hlt, hp⟩ := h.pending e l hl
    cases l with
    | reading =>
      unfold advance; rw [hl]
      refine ⟨h.setLoading ?_ ?_, spares_of_frame rfl rfl⟩
      · intro e' p' hl'
        cases hl'
        exact ⟨hlt, hp.imp_left (by intro hr; cases hr)⟩
      · intro e' snapshot hl'
        cases hl'
        unfold State.stored
        cases s.snapshot with
        | none => exact subset_rfl
        | some d => exact subset_rfl
    | read snapshot =>
      refine ⟨h.register hl, ?_⟩
      obtain ⟨hnone, hdocs⟩ : s.heap e = none ∧ s.docs = none := by
        rcases hp with hp | hp
        · cases hp
        · exact hp
      intro b x hx _
      have hbe : b ≠ e := by rintro rfl; rw [hnone] at hx; cases hx
      refine ⟨fun x' hx' hd => ?_, fun hb => by rw [hdocs] at hb; cases hb⟩
      unfold advance at hx'
      rw [hl] at hx'
      have hput : s.heap.put e _ b = some x' := hx'
      rw [Slots.put_of_ne _ _ hbe, hx] at hput
      cases hput
      exact hd
    | settled =>
      unfold advance; rw [hl]
      refine ⟨h.setLoading ?_ ?_, spares_of_frame rfl rfl⟩
      · intro e' p' hl'; cases hl'
      · intro e' snapshot hl'; cases hl'

theorem resume_step {s s' : State E} (h : Inv y s) {i : Nat} {t : Task E}
    (ht : s.tasks.get i = some t) (hin : InOrder y s t) (hidle : t.isRetain = true → Idle s)
    (hs : resume s i t = some s') : Inv y s' ∧ SparesRetained s s' := by
  cases t with
  | retain e =>
    simp only [resume] at hs
    split at hs
    · cases hs
    · cases hs
      split
      · rename_i x hx
        exact ⟨(h.countIn (hidle rfl) hx).done i, spares_of_write hx rfl rfl id⟩
      · exact ⟨h.done i, spares_of_frame rfl rfl⟩
  | put caller e body =>
    cases hs
    obtain ⟨hland, hstored⟩ := h.land (h.bodies i caller e body ht) hin
    refine ⟨hland.goto i (by intro _ _ _ hu; cases hu) ?_, spares_of_frame rfl rfl⟩
    intro t hu p hp
    cases hu
    rw [hstored] at hp
    cases caller with
    | release =>
      cases hp
      -- what the put was to store it has stored
      have hcov := (h.covers i _ _ ht rfl).mono (q := (e, body.fileEdits)) rfl
        (Finset.union_subset hin subset_rfl)
      exact { hcov with }
    | timer => cases hp
  | flushed caller e ok =>
    cases caller with
    | release =>
      obtain ⟨x, hx, rfl⟩ := Option.map_eq_some_iff.1 hs
      have hcov := h.covers i _ _ ht rfl
      have h' := h.setEntry hx (w := { x with dirty := x.dirty && !ok, destroyed := true })
        (h.tidy e x hx) rfl le_rfl
      have hcov' := hcov.setEntry hx (w := { x with dirty := x.dirty && !ok, destroyed := true })
        rfl le_rfl
      refine ⟨(h'.evict hcov'.live).done i, fun b z hz hclients => ⟨fun z' hz' hd => ?_, fun hb => ?_⟩⟩
      · have hput : s.heap.put e _ b = some z' := hz'
        rcases Slots.put_eq_some hput with ⟨rfl, -⟩ | ⟨-, hz'⟩
        · have := hcov.entry z hz
          omega
        · rw [hz] at hz'
          cases hz'
          exact hd
      · have := hcov.registered b z (State.registered_eq_some.2 ⟨hb, hz⟩)
        omega
    | timer =>
      obtain ⟨x, hx, rfl⟩ := Option.map_eq_some_iff.1 hs
      have h' := h.setEntry hx (w := { x with dirty := x.dirty && !ok }) (h.tidy e x hx) rfl le_rfl
      exact ⟨h'.done i, spares_of_write hx rfl rfl id⟩

theorem step_inv {s s' : State E} {e : Event E} (h : Inv y s) (hok : Quiet y s e)
    (hs : step y s e = some s') : Inv y s' ∧ SparesRetained s s' := by
  cases e with
  | retain i =>
    unfold step at hs
    simp only [Option.ite_none_right_eq_some, Option.some.injEq] at hs
    obtain ⟨-, rfl⟩ := hs
    exact retain_step h hok
  | release i =>
    unfold step at hs
    simp only [Option.ite_none_right_eq_some, Option.some.injEq] at hs
    obtain ⟨-, rfl⟩ := hs
    exact release_step (s := { s with held := s.held - 1 })
      { h with covers := fun i t p ht hp => { h.covers i t p ht hp with } } i
  | applyUpdate u =>
    cases hs
    exact applyUpdate_step h hok
  | seedFileContent path content edit =>
    cases hs
    unfold seedFileContent
    split
    · rename_i u hu
      have hidle : (seedOf y s path content edit).any (accepts y s) = true → Idle s := hok
      rw [hu] at hidle
      exact applyUpdate_step h hidle
    · exact ⟨h, spares_of_frame rfl rfl⟩
  | tick i =>
    unfold step at hs
    simp only [Option.ite_none_right_eq_some, Option.some.injEq] at hs
    obtain ⟨-, rfl⟩ := hs
    exact flushDirty_step h i
  | load =>
    obtain ⟨l, -, rfl⟩ := Option.map_eq_some_iff.1 hs
    exact advance_step h
  | loadFails =>
    unfold step at hs
    dsimp only at hs
    split at hs
    · rename_i e hl
      cases hs
      refine ⟨h.setLoading ?_ ?_, spares_of_frame rfl rfl⟩
      · intro e' l' hl'
        cases hl'
        exact ⟨(h.pending e _ hl).1, .inl rfl⟩
      · intro e' snapshot hl'; cases hl'
    · cases hs
  | resume i =>
    obtain ⟨t, ht, hs⟩ := Option.bind_eq_some_iff.1 hs
    obtain ⟨hin, hidle⟩ := hok t ht
    exact resume_step h ht hin hidle hs
  | putFails i stored =>
    unfold step at hs
    dsimp only at hs
    split at hs
    · rename_i caller e body ht
      cases hs
      obtain ⟨hfinal, hin⟩ := hok _ ht
      cases caller with
      | release => cases hfinal
      | timer =>
        cases stored with
        | true =>
          obtain ⟨hland, -⟩ := h.land (h.bodies i _ e body ht) (hin rfl)
          exact ⟨hland.goto i (by intro _ _ _ hu; cases hu) (by intro t hu p hp; cases hu; cases hp),
            spares_of_frame rfl rfl⟩
        | false =>
          exact ⟨h.goto i (by intro _ _ _ hu; cases hu) (by intro t hu p hp; cases hu; cases hp),
            spares_of_frame rfl rfl⟩
    · cases hs

/-! ## Every run -/

theorem run_inv {snapshot : Option (Doc E)} {es : List (Event E)} {s : State E}
    (hok : Meets (step y) (Quiet y) (init snapshot) es)
    (h : run (step y) (init snapshot) es = some s) : Inv y s :=
  TransSys.run_inv (fun _ _ _ hi hok hs => (step_inv hi hok hs).1) (inv_init snapshot) hok h

theorem Inv.kept {s : State E} (h : Inv y s) : Kept s := by
  intro a ha
  have hmem : a ∈ s.stored y ∪ (s.liveDoc.map (·.fileEdits)).getD ∅ := h.durable ha
  rcases Finset.mem_union.1 hmem with hstored | hlive
  · right; left
    unfold State.stored at hstored
    cases hsnap : s.snapshot with
    | none => rw [hsnap] at hstored; simp at hstored
    | some d =>
      rw [hsnap] at hstored
      exact ⟨d, rfl, (Finset.mem_filter.1 (fileEdits_subset _ hstored)).1⟩
  · left
    cases hl : s.liveDoc with
    | none => rw [hl] at hlive; simp at hlive
    | some d =>
      rw [hl] at hlive
      exact ⟨d, rfl, fileEdits_subset d hlive⟩

/-- In every run in which puts land in order and, while a last release flushes, its put is not
rejected, no retain completes and no update is accepted, every accepted text edit is kept, and no
further such step destroys or removes an entry with clients. -/
theorem edits_durable (y : Yjs E) (snapshot : Option (Doc E)) (es : List (Event E)) (s : State E)
    (hok : Meets (step y) (Quiet y) (init snapshot) es)
    (h : run (step y) (init snapshot) es = some s) :
    Kept s ∧ ∀ e s', Quiet y s e → step y s e = some s' → SparesRetained s s' := by
  have hi := run_inv hok h
  exact ⟨hi.kept, fun e s' he hs => (step_inv hi he hs).2⟩

/-! ## A failed final put, and a rejoin during one -/

namespace Example

/-- Each edit types one letter. -/
def letters : Yjs Nat where
  mergeMap := fun m u => u.foldl (fun m p => m.filter (·.1 ≠ p.1) ++ (p.2.map (p.1, ·)).toList) m
  text := fun es => String.ofList (List.replicate es.card 'x')
  surplus := fun d u => d.surplus + u.edits.card
  encodedBytes := fun d => 64 + 32 * d.edits.card

/-- A first participant joins: the document is loaded. -/
def join (i : Nat) : List (Event Nat) := [.retain i, .load, .load, .load, .resume i]

def type (edit : Nat) : Event Nat := .applyUpdate ⟨none, none, [("main.ts", {edit})], []⟩

/-- The final put is rejected. -/
def outage : List (Event Nat) := join 0 ++ [type 1, .release 1, .putFails 1 false, .resume 1]

/-- A participant comes back while the final put is under way. -/
def comeback : List (Event Nat) := join 0 ++ [type 1, .release 1, .retain 2, .resume 1]

/-- A failed timer flush, then a last release that saves, and a new join. -/
def lesson : List (Event Nat) :=
  join 0 ++ [.seedFileContent "main.ts" "x" 1, .tick 1, type 2, .putFails 1 false, .resume 1,
    .release 2, .resume 2, .resume 2] ++ join 3

end Example

open Example in
theorem lesson_durable :
    ((run (step letters) (init none) lesson).map fun s => (s.liveDoc.map (·.edits), s.accepted)) =
        some (some {("main.ts", 1), ("main.ts", 2)}, {("main.ts", 1), ("main.ts", 2)}) ∧
    ∀ s, run (step letters) (init none) lesson = some s →
      Kept s ∧ ∀ e s', Quiet letters s e → step letters s e = some s' → SparesRetained s s' :=
  ⟨by decide, fun s h => edits_durable letters none lesson s (by decide) h⟩

open Example in
theorem outage_and_comeback :
    (¬ ∀ (es : List (Event Nat)) (s : State Nat), run (step letters) (init none) es = some s → Kept s) ∧
    ¬ ∀ (es : List (Event Nat)) (s : State Nat), run (step letters) (init none) es = some s →
      ∀ e s', step letters s e = some s' → SparesRetained s s' := by
  constructor
  · intro h
    have hrun : ((run (step letters) (init none) outage).map fun s =>
        (s.accepted, s.docs, s.snapshot)) = some ({("main.ts", 1)}, none, none) := by decide
    obtain ⟨s, hs, heq⟩ := Option.map_eq_some_iff.1 hrun
    obtain ⟨hacc, hdocs, hsnap⟩ : s.accepted = {("main.ts", 1)} ∧ s.docs = none ∧ s.snapshot = none := by
      simpa using heq
    have hreg : s.registered = none := by simp [State.registered, hdocs]
    have hkept := h outage s hs ("main.ts", 1) (by rw [hacc]; exact Finset.mem_singleton_self _)
    simp [State.liveDoc, hreg, hsnap] at hkept
  · intro h
    have hrun : ((run (step letters) (init none) comeback).map fun s =>
        (s.docs, (s.heap 0).map (·.clients), (step letters s (.resume 1)).map (·.docs))) =
          some (some 0, some 1, some none) := by decide
    obtain ⟨s, hs, heq⟩ := Option.map_eq_some_iff.1 hrun
    simp only [Prod.mk.injEq, Option.map_eq_some_iff] at heq
    obtain ⟨hdocs, ⟨x, hx, hclients⟩, s', hs', hdocs'⟩ := heq
    have := (h comeback s hs _ s' hs' 0 x hx (by omega)).2 hdocs
    rw [hdocs'] at this
    cases this

end Livetich.Code.DocService
