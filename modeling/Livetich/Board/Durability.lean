/-
The board loses no accepted update as long as puts land in order and a release deletes its own
entry: in every run whose steps all meet these two conditions, each update `applyUpdate` returned
true for is in the registered document or in the stored snapshot, and an entry leaves the map only
when its document is stored.

`release` deletes by key after its last flush, without the check `flushDirty` makes that the map
still holds its own entry; when two last releases flush at once, the second can delete the entry
of a participant who has joined since. The run after the theorem shows an update lost so.
-/
import Mathlib.Data.Finset.Lattice.Lemmas
import Livetich.Lib.WriteBack
import Livetich.Board.Doc

namespace Livetich.Board.Doc

open TransSys
open WriteBack (Copy)

variable {U : Type} [DecidableEq U]

/-! ## The board as a write-back cache -/

namespace State

def stored (s : State U) : Finset U := s.snapshot.getD ∅

/-- The document of the registered entry. -/
def liveDoc (s : State U) : Option (Finset U) := (s.boards.bind s.heap).map (·.doc)

def cache (s : State U) : WriteBack.State (Finset U) := ⟨s.stored, s.liveDoc, s.accepted⟩

end State

/-- Every accepted update is in the registered document or in the stored snapshot. -/
def Durable (s : State U) : Prop := s.accepted ⊆ s.stored ∪ s.liveDoc.getD ∅

/-- The registered entry, if it leaves the map, has its whole document stored. -/
def LeavesStored (s s' : State U) : Prop :=
  ∀ d, s.liveDoc = some d → s'.boards ≠ s.boards → d ⊆ s'.stored

/-! ## The conditions -/

/-- A put that lands replaces no update its own body lacks. -/
def InOrder (s : State U) : Task U → Prop
  | .put _ _ _ body => s.stored ⊆ body
  | _ => True

/-- A release that goes on to delete finds its own entry in the map, or a clean one. -/
def OwnEntry (s : State U) : Task U → Prop
  | .flushed .release e revision true => ∀ x ∈ s.heap e, (x.saved revision).dirty = false →
      x.clients = 0 → ∀ e' ∈ s.boards, e' = e ∨ ∀ y ∈ s.heap e', y.dirty = false
  | _ => True

def Orderly (s : State U) : Event U → Prop
  | .resume i => ∀ t ∈ s.tasks.get i, InOrder s t ∧ OwnEntry s t
  | .putFails i true => ∀ t ∈ s.tasks.get i, InOrder s t
  | _ => True

instance : ∀ (s : State U) t, Decidable (InOrder s t)
  | s, .put _ _ _ body => inferInstanceAs (Decidable (s.stored ⊆ body))
  | _, .retain .. | _, .flushed .. => inferInstanceAs (Decidable True)

instance : ∀ (s : State U) t, Decidable (OwnEntry s t)
  | s, .flushed .release e revision true =>
    inferInstanceAs (Decidable (∀ x ∈ s.heap e, (x.saved revision).dirty = false →
      x.clients = 0 → ∀ e' ∈ s.boards, e' = e ∨ ∀ y ∈ s.heap e', y.dirty = false))
  | _, .flushed .release _ _ false | _, .flushed .timer .. | _, .retain .. | _, .put .. =>
    inferInstanceAs (Decidable True)

instance : ∀ (s : State U) e, Decidable (Orderly s e)
  | s, .resume i => inferInstanceAs (Decidable (∀ t ∈ s.tasks.get i, InOrder s t ∧ OwnEntry s t))
  | s, .putFails i true => inferInstanceAs (Decidable (∀ t ∈ s.tasks.get i, InOrder s t))
  | _, .putFails _ false | _, .retain _ | _, .release _ | _, .applyUpdate _ | _, .tick _ | _, .load
  | _, .loadFails => inferInstanceAs (Decidable True)

/-! ## The invariant -/

/-- The copy a task took of its entry, with what of it is known to be stored by now. -/
def Task.copy (stored : Finset U) : Task U → Option (Nat × Copy (Finset U))
  | .put _ e revision body => some (e, ⟨revision, body⟩)
  | .flushed _ e revision true => some (e, ⟨revision, stored⟩)
  | _ => none

/-- The copy is of an entry in the heap. -/
def Tracked (s : State U) (p : Nat × Copy (Finset U)) : Prop :=
  ∃ x, s.heap p.1 = some x ∧ p.2.Tracks x.revision x.doc

structure Inv (s : State U) : Prop where
  registered : ∀ e, s.boards = some e → ∃ x, s.heap e = some x
  numbered : ∀ e x, s.heap e = some x → e < s.nextEntry
  /-- Until a load is settled nothing is registered, and its entry is not there yet. -/
  pending : ∀ e l, s.loading = some (e, l) →
    e < s.nextEntry ∧ (l = .settled ∨ s.heap e = none ∧ s.boards = none)
  read : ∀ e snapshot, s.loading = some (e, .read snapshot) → snapshot.getD ∅ ⊆ s.stored
  clean : ∀ e x, s.heap e = some x → x.dirty = false → x.doc ⊆ s.stored
  copies : ∀ i t p, s.tasks.get i = some t → t.copy s.stored = some p → Tracked s p
  durable : s.cache.Durable

theorem inv_init (snapshot : Option (Finset U)) : Inv (init snapshot) where
  registered := by simp [init]
  numbered := by simp [init]
  pending := by simp [init]
  read := by simp [init]
  clean := by simp [init]
  copies := by simp [init]
  durable := by simp [init, State.cache, WriteBack.State.Durable]

/-! ## What the pieces of a step keep -/

omit [DecidableEq U] in
theorem liveDoc_setEntry {s : State U} {e : Nat} {x z : BoardEntry U} (hx : s.heap e = some x)
    (hdoc : z.doc = x.doc) : (s.setEntry e z).liveDoc = s.liveDoc := by
  unfold State.liveDoc State.setEntry
  cases hb : s.boards with
  | none => rfl
  | some b =>
    by_cases hbe : b = e
    · subst hbe; simp [hx, hdoc]
    · simp [Slots.put_of_ne _ _ hbe]

theorem tracked_setEntry {s : State U} {e : Nat} {x z : BoardEntry U} (hx : s.heap e = some x)
    (hkeep : ∀ k : Copy (Finset U), k.Tracks x.revision x.doc → k.Tracks z.revision z.doc)
    {p : Nat × Copy (Finset U)} (hp : Tracked s p) : Tracked (s.setEntry e z) p := by
  obtain ⟨y, hy, hk⟩ := hp
  by_cases hpe : p.1 = e
  · have : y = x := by rw [hpe, hx] at hy; cases hy; rfl
    subst this
    exact ⟨z, by rw [hpe]; exact Slots.put_self .., hkeep _ hk⟩
  · exact ⟨y, by rw [← hy]; exact Slots.put_of_ne _ _ hpe, hk⟩

namespace Inv

variable {s : State U}

/-- A task may go on to any task whose copy tracks its entry. -/
theorem goto (h : Inv s) (i : Nat) {t : Option (Task U)}
    (ht : ∀ u ∈ t, ∀ p, u.copy s.stored = some p → Tracked s p) : Inv (s.goto i t) where
  registered := h.registered
  numbered := h.numbered
  pending := h.pending
  read := h.read
  clean := h.clean
  copies := by
    intro j u p hu hp
    rcases Pool.get_put_cases hu with ⟨-, hu⟩ | ⟨-, hu⟩
    · exact ht u hu p hp
    · exact h.copies j u p hu hp
  durable := h.durable

theorem done (h : Inv s) (i : Nat) : Inv (s.goto i none) :=
  h.goto i (by intro u hu; cases hu)

theorem return_ (h : Inv s) (i : Nat) (result : Bool) : Inv (s.return_ i result) :=
  ⟨(h.done i).registered, (h.done i).numbered, (h.done i).pending, (h.done i).read,
    (h.done i).clean, (h.done i).copies, (h.done i).durable⟩

/-- Writing to an entry in the heap, as long as its copies still track it. -/
theorem write (h : Inv s) {e : Nat} {x z : BoardEntry U} (hx : s.heap e = some x)
    (hkeep : ∀ k : Copy (Finset U), k.Tracks x.revision x.doc → k.Tracks z.revision z.doc)
    (hclean : z.dirty = false → z.doc ⊆ s.stored) (accepted : Finset U)
    (hd : WriteBack.State.Durable
      { stored := s.stored, live := (s.setEntry e z).liveDoc, accepted := accepted }) :
    Inv { s.setEntry e z with accepted := accepted } where
  registered := by
    intro b hb
    by_cases hbe : b = e
    · exact ⟨z, by rw [hbe]; exact Slots.put_self ..⟩
    · obtain ⟨y, hy⟩ := h.registered b hb
      exact ⟨y, by rw [← hy]; exact Slots.put_of_ne _ _ hbe⟩
  numbered := by
    intro b y hy
    rcases Slots.put_eq_some hy with ⟨rfl, -⟩ | ⟨-, hy⟩
    · exact h.numbered _ _ hx
    · exact h.numbered b y hy
  pending := by
    intro b l hl
    obtain ⟨hlt, hl⟩ := h.pending b l hl
    refine ⟨hlt, hl.imp_right fun ⟨hnone, hboards⟩ => ⟨?_, hboards⟩⟩
    have hbe : b ≠ e := by rintro rfl; rw [hx] at hnone; cases hnone
    show s.heap.put e (some z) b = none
    rw [Slots.put_of_ne _ _ hbe]; exact hnone
  read := h.read
  clean := by
    intro b y hy hdirty
    rcases Slots.put_eq_some hy with ⟨-, hy⟩ | ⟨-, hy⟩
    · cases hy; exact hclean hdirty
    · exact h.clean b y hy hdirty
  copies := fun i t p ht hp => tracked_setEntry hx hkeep (h.copies i t p ht hp)
  durable := hd

/-- An entry keeps its document and its revision. -/
theorem setEntry (h : Inv s) {e : Nat} {x z : BoardEntry U} (hx : s.heap e = some x)
    (hdoc : z.doc = x.doc) (hrev : z.revision = x.revision)
    (hclean : z.dirty = false → x.doc ⊆ s.stored) : Inv (s.setEntry e z) := by
  refine h.write hx (by rw [hdoc, hrev]; exact fun _ hk => hk) (by rw [hdoc]; exact hclean)
    s.accepted ?_
  rw [liveDoc_setEntry hx hdoc]
  exact h.durable

theorem countIn (h : Inv s) {e : Nat} {x : BoardEntry U} (hx : s.heap e = some x) :
    Inv (s.countIn e x) := by
  have h' := h.setEntry hx (z := { x with clients := x.clients + 1 }) rfl rfl (h.clean e x hx)
  exact ⟨h'.registered, h'.numbered, h'.pending, h'.read, h'.clean, h'.copies, h'.durable⟩

/-- A registered entry whose document is stored may leave the map. -/
theorem evict (h : Inv s) (hsafe : ∀ d, s.liveDoc = some d → d ⊆ s.stored) :
    Inv { s with boards := none } where
  registered := by intro e he; cases he
  numbered := h.numbered
  pending := fun e l hl => ⟨(h.pending e l hl).1, (h.pending e l hl).2.imp_right fun hp => ⟨hp.1, rfl⟩⟩
  read := h.read
  clean := h.clean
  copies := h.copies
  durable := (WriteBack.Step.evict hsafe).durable h.durable

/-- A put lands that covers the snapshot it replaces. -/
theorem land (h : Inv s) {body : Finset U} (hle : s.stored ⊆ body) :
    Inv { s with snapshot := some body } where
  registered := h.registered
  numbered := h.numbered
  pending := h.pending
  read := fun e snapshot hl => (h.read e snapshot hl).trans hle
  clean := fun e x hx hdirty => (h.clean e x hx hdirty).trans hle
  copies := by
    intro i t p ht hp
    cases t with
    | put caller e revision b => exact h.copies i _ p ht hp
    | flushed caller e revision ok =>
      cases ok with
      | false => cases hp
      | true =>
        obtain ⟨x, hx, hk⟩ := h.copies i _ (e, ⟨revision, s.stored⟩) ht rfl
        cases hp
        exact ⟨x, hx, hk.mono hle⟩
    | retain e => cases hp
  durable := (WriteBack.Step.land body hle).durable h.durable

/-- A load registers what it has read. -/
theorem register (h : Inv s) {e : Nat} {snapshot : Option (Finset U)}
    (hl : s.loading = some (e, .read snapshot)) : Inv (advance s) := by
  obtain ⟨hlt, hp⟩ := h.pending e _ hl
  obtain ⟨hnone, hboards⟩ : s.heap e = none ∧ s.boards = none := by
    rcases hp with hp | hp
    · cases hp
    · exact hp
  have hle := h.read e snapshot hl
  unfold advance
  rw [hl]
  constructor
  · intro b hb
    cases hb
    exact ⟨_, Slots.put_self ..⟩
  · intro b y hy
    rcases Slots.put_eq_some hy with ⟨rfl, -⟩ | ⟨-, hy⟩
    · exact hlt
    · exact h.numbered b y hy
  · intro b l hb
    cases hb
    exact ⟨hlt, .inl rfl⟩
  · intro b snap hb
    cases hb
  · intro b y hy hdirty
    rcases Slots.put_eq_some hy with ⟨-, hy⟩ | ⟨-, hy⟩
    · cases hy; exact hle
    · exact h.clean b y hy hdirty
  · intro i t p ht hp
    obtain ⟨x, hx, hk⟩ := h.copies i t p ht hp
    have hpe : p.1 ≠ e := by rintro hpe; rw [hpe, hnone] at hx; cases hx
    exact ⟨x, by rw [← hx]; exact Slots.put_of_ne _ _ hpe, hk⟩
  · have hlive : s.liveDoc = none := by simp [State.liveDoc, hboards]
    have hd := (WriteBack.Step.load (snapshot.getD ∅) (s := s.cache) hlive).durable h.durable
    have hnew : (({ s.setEntry e ⟨snapshot.getD ∅, false, 0, 0⟩ with
        boards := some e
        loading := some (e, .settled) } : State U)).liveDoc = some (snapshot.getD ∅) := by
      simp [State.liveDoc, State.setEntry]
    unfold State.cache
    rw [hnew]
    exact hd

theorem applyUpdate (h : Inv s) (u : U) : Inv (applyUpdate s u) := by
  unfold Doc.applyUpdate
  split
  · rename_i e x hreg
    obtain ⟨hboards, hx⟩ := State.registered_eq_some.1 hreg
    refine h.write hx (fun k hk => hk.bump _) (by intro hd; cases hd) (insert u s.accepted) ?_
    have hlive : s.liveDoc = some x.doc := by simp [State.liveDoc, hboards, hx]
    have hd := (WriteBack.Step.accept {u} (s := s.cache) hlive).durable h.durable
    have hnew : (s.setEntry e { x with
        doc := insert u x.doc, dirty := true, revision := x.revision + 1 }).liveDoc =
        some (x.doc ∪ {u}) := by
      simp [State.liveDoc, State.setEntry, hboards, Finset.union_singleton]
    rw [hnew, ← Finset.union_singleton]
    exact hd
  · exact h

theorem saved (h : Inv s) {e revision : Nat} {x : BoardEntry U} (hx : s.heap e = some x)
    (hk : Copy.Tracks ⟨revision, s.stored⟩ x.revision x.doc) :
    Inv (s.setEntry e (x.saved revision)) := by
  refine h.setEntry hx (x.saved_doc _) (x.saved_revision _) fun hd => ?_
  rcases BoardEntry.saved_dirty hd with hd | hr
  · exact h.clean e x hx hd
  · exact hk.2 hr

/-- The registered document is stored when its entry is clean. -/
theorem live_stored (h : Inv s) (hclean : ∀ e x, s.boards = some e → s.heap e = some x →
    x.dirty = false) : ∀ d, s.liveDoc = some d → d ⊆ s.stored := by
  intro d hd
  obtain ⟨x, hx, rfl⟩ := Option.map_eq_some_iff.1 hd
  obtain ⟨e, hb, hx⟩ := Option.bind_eq_some_iff.1 hx
  exact h.clean e x hx (hclean e x hb hx)

theorem releaseLoop (h : Inv s) (i : Nat) {e : Nat} {x : BoardEntry U} (hx : s.heap e = some x)
    (hown : x.dirty = false → x.clients = 0 →
      ∀ e' ∈ s.boards, e' = e ∨ ∀ y ∈ s.heap e', y.dirty = false) :
    Inv (s.releaseLoop i e x) ∧ LeavesStored s (s.releaseLoop i e x) := by
  unfold State.releaseLoop
  split
  · refine ⟨h.goto i ?_, fun d _ hne => absurd rfl hne⟩
    intro t ht p hp
    cases ht
    cases hp
    exact ⟨x, hx, Copy.tracks_self ..⟩
  · rename_i hflush
    split
    · exact ⟨h.return_ i false, fun d _ hne => absurd rfl hne⟩
    · rename_i hclients
      have hzero : x.clients = 0 := by omega
      have hdirty : x.dirty = false := by
        cases hd : x.dirty with
        | false => rfl
        | true => exact absurd ⟨hd, hzero⟩ hflush
      have hsafe := h.live_stored (by
        intro e' y hb hy
        rcases hown hdirty hzero e' hb with rfl | hclean
        · rw [hx] at hy; cases hy; exact hdirty
        · exact hclean y hy)
      exact ⟨(h.evict hsafe).return_ i true, fun d hd _ => hsafe d hd⟩

end Inv

/-! ## Every step -/

theorem release_step {s : State U} (h : Inv s) (i : Nat) :
    Inv (release s i) ∧ LeavesStored s (release s i) := by
  unfold release
  split
  · rename_i e x hreg
    obtain ⟨hboards, hx⟩ := State.registered_eq_some.1 hreg
    have h' := h.setEntry hx (z := { x with clients := x.clients - 1 }) rfl rfl (h.clean e x hx)
    have hlive := liveDoc_setEntry hx (z := { x with clients := x.clients - 1 }) rfl
    dsimp only
    split
    · exact ⟨h'.return_ i false, fun d _ hne => absurd rfl hne⟩
    · -- the loop runs on the registered entry itself
      obtain ⟨hinv, hleaves⟩ := h'.releaseLoop i (Slots.put_self ..) fun _ _ e' he' => .inl (by
        rw [show (s.setEntry e _).boards = s.boards from rfl, hboards] at he'
        exact (Option.some.inj he').symm)
      refine ⟨hinv, fun d hd hne => hleaves d (hlive ▸ hd) hne⟩
  · exact ⟨h.return_ i false, fun d _ hne => absurd rfl hne⟩

theorem retain_step {s : State U} (h : Inv s) (i : Nat) :
    Inv (retain s i) ∧ LeavesStored s (retain s i) := by
  unfold retain
  split
  · rename_i e x hreg
    obtain ⟨-, hx⟩ := State.registered_eq_some.1 hreg
    exact ⟨h.countIn hx, fun d _ hne => absurd rfl hne⟩
  · rename_i hreg
    split
    · refine ⟨h.goto i ?_, fun d _ hne => absurd rfl hne⟩
      intro t ht p hp
      cases ht; cases hp
    · have hboards : s.boards = none := by
        cases hb : s.boards with
        | none => rfl
        | some e =>
          obtain ⟨x, hx⟩ := h.registered e hb
          rw [State.registered_eq_some.2 ⟨hb, hx⟩] at hreg
          cases hreg
      have hfresh : s.heap s.nextEntry = none := by
        cases hx : s.heap s.nextEntry with
        | none => rfl
        | some x => exact absurd (h.numbered _ x hx) (lt_irrefl _)
      have h' : Inv { s with
          loading := some (s.nextEntry, .reading)
          nextEntry := s.nextEntry + 1 } :=
        { h with
          numbered := fun e x hx => Nat.lt_succ_of_lt (h.numbered e x hx)
          pending := by
            intro e l hl
            cases hl
            exact ⟨Nat.lt_succ_self _, .inr ⟨hfresh, hboards⟩⟩
          read := by intro e snapshot hl; cases hl }
      refine ⟨h'.goto i ?_, fun d _ hne => absurd rfl hne⟩
      intro t ht p hp
      cases ht; cases hp

theorem flushDirty_step {s : State U} (h : Inv s) (i : Nat) :
    Inv (flushDirty s i) ∧ LeavesStored s (flushDirty s i) := by
  unfold flushDirty
  split
  · rename_i e x hreg
    obtain ⟨-, hx⟩ := State.registered_eq_some.1 hreg
    split
    · refine ⟨h.goto i ?_, fun d _ hne => absurd rfl hne⟩
      intro t ht p hp
      cases ht
      cases hp
      exact ⟨x, hx, Copy.tracks_self ..⟩
    · exact ⟨h, fun d _ hne => absurd rfl hne⟩
  · exact ⟨h, fun d _ hne => absurd rfl hne⟩

theorem advance_step {s : State U} (h : Inv s) : Inv (advance s) ∧ LeavesStored s (advance s) := by
  cases hl : s.loading with
  | none =>
    unfold advance; rw [hl]
    exact ⟨h, fun d _ hne => absurd rfl hne⟩
  | some p =>
    obtain ⟨e, l⟩ := p
    obtain ⟨hlt, hp⟩ := h.pending e l hl
    cases l with
    | reading =>
      unfold advance; rw [hl]
      refine ⟨{ h with pending := ?_, read := ?_ }, fun d _ hne => absurd rfl hne⟩
      · intro e' l' hl'
        cases hl'
        exact ⟨hlt, hp.imp_left (by intro hr; cases hr)⟩
      · intro e' snapshot hl'
        cases hl'
        exact subset_rfl
    | read snapshot =>
      refine ⟨h.register hl, fun d hd _ => ?_⟩
      -- nothing was registered before
      rcases hp with hp | ⟨-, hb⟩
      · cases hp
      · simp [State.liveDoc, hb] at hd
    | settled =>
      unfold advance; rw [hl]
      refine ⟨{ h with pending := ?_, read := ?_ }, fun d _ hne => absurd rfl hne⟩
      · intro e' l' hl'; cases hl'
      · intro e' snapshot hl'; cases hl'

theorem resume_step {s s' : State U} (h : Inv s) {i : Nat} {t : Task U}
    (ht : s.tasks.get i = some t) (hin : InOrder s t) (hown : OwnEntry s t)
    (hs : resume s i t = some s') : Inv s' ∧ LeavesStored s s' := by
  cases t with
  | retain e =>
    simp only [resume] at hs
    split at hs
    · cases hs
    · cases hs
      split
      · rename_i x hx
        exact ⟨(h.countIn hx).done i, fun d _ hne => absurd rfl hne⟩
      · exact ⟨h.done i, fun d _ hne => absurd rfl hne⟩
  | put caller e revision body =>
    cases hs
    refine ⟨(h.land hin).goto i ?_, fun d _ hne => absurd rfl hne⟩
    intro t hu p hp
    cases hu
    cases hp
    obtain ⟨x, hx, hk⟩ := h.copies i _ _ ht rfl
    exact ⟨x, hx, hk⟩
  | flushed caller e revision ok =>
    obtain ⟨x, hx, rfl⟩ := Option.map_eq_some_iff.1 hs
    cases ok with
    | false =>
      cases caller with
      | release => exact ⟨h.return_ i true, fun d _ hne => absurd rfl hne⟩
      | timer => exact ⟨h.done i, fun d _ hne => absurd rfl hne⟩
    | true =>
      obtain ⟨x', hx', hk⟩ := h.copies i _ _ ht rfl
      obtain rfl : x = x' := by rw [hx] at hx'; cases hx'; rfl
      have hsaved := h.saved hx hk
      have hlive := liveDoc_setEntry hx (x.saved_doc revision)
      cases caller with
      | release =>
        obtain ⟨hinv, hleaves⟩ := hsaved.releaseLoop i (Slots.put_self ..) (by
          intro hd hc e' hb
          have hclients : x.clients = 0 := by
            have : (x.saved revision).clients = x.clients := by
              unfold BoardEntry.saved; split <;> rfl
            omega
          by_cases hee : e' = e
          · exact .inl hee
          · refine (hown x hx hd hclients e' hb).imp_right fun hclean y hy => hclean y ?_
            have hput : s.heap.put e (some (x.saved revision)) e' = some y := hy
            rw [Slots.put_of_ne _ _ hee] at hput
            exact hput)
        exact ⟨hinv, fun d hd hne => hleaves d (hlive ▸ hd) hne⟩
      | timer =>
        dsimp only
        split
        · rename_i hevict
          obtain ⟨hdirty, -, hb⟩ := hevict
          have hsafe := (hsaved.done i).live_stored (by
            intro e' y hb' hy
            obtain rfl : e = e' := Option.some.inj (hb.symm.trans hb')
            have hput : (s.heap.put e (some (x.saved revision))) e = some y := hy
            rw [Slots.put_self] at hput
            cases hput
            simpa using hdirty)
          exact ⟨(hsaved.done i).evict hsafe, fun d hd _ => hsafe d (hlive ▸ hd)⟩
        · exact ⟨hsaved.done i, fun d _ hne => absurd rfl hne⟩

theorem step_inv {s s' : State U} {e : Event U} (h : Inv s) (hok : Orderly s e)
    (hs : step s e = some s') : Inv s' ∧ LeavesStored s s' := by
  cases e with
  | retain i =>
    unfold step at hs
    simp only [Option.ite_none_right_eq_some, Option.some.injEq] at hs
    obtain ⟨-, rfl⟩ := hs
    exact retain_step h i
  | release i =>
    unfold step at hs
    simp only [Option.ite_none_right_eq_some, Option.some.injEq] at hs
    obtain ⟨-, rfl⟩ := hs
    exact release_step (s := { s with held := s.held - 1 }) { h with } i
  | applyUpdate u =>
    cases hs
    refine ⟨h.applyUpdate u, fun d _ hne => absurd ?_ hne⟩
    unfold applyUpdate; split <;> rfl
  | tick i =>
    unfold step at hs
    simp only [Option.ite_none_right_eq_some, Option.some.injEq] at hs
    obtain ⟨-, rfl⟩ := hs
    exact flushDirty_step h i
  | load =>
    obtain ⟨l, -, rfl⟩ := Option.map_eq_some_iff.1 hs
    exact advance_step h
  | loadFails =>
    unfold step at hs
    dsimp only at hs
    split at hs
    · rename_i e hl
      cases hs
      refine ⟨{ h with pending := ?_, read := ?_ }, fun d _ hne => absurd rfl hne⟩
      · intro e' l' hl'
        cases hl'
        exact ⟨(h.pending e _ hl).1, .inl rfl⟩
      · intro e' snapshot hl'; cases hl'
    · cases hs
  | resume i =>
    obtain ⟨t, ht, hs⟩ := Option.bind_eq_some_iff.1 hs
    obtain ⟨hin, hown⟩ := hok t ht
    exact resume_step h ht hin hown hs
  | putFails i stored =>
    unfold step at hs
    dsimp only at hs
    split at hs
    · rename_i caller e revision body ht
      cases hs
      cases stored with
      | true =>
        refine ⟨(h.land (hok _ ht)).goto i ?_, fun d _ hne => absurd rfl hne⟩
        intro t hu p hp
        cases hu; cases hp
      | false =>
        refine ⟨h.goto i ?_, fun d _ hne => absurd rfl hne⟩
        intro t hu p hp
        cases hu; cases hp
    · cases hs

/-! ## Every run -/

theorem run_inv {snapshot : Option (Finset U)} {es : List (Event U)} {s : State U}
    (hok : Meets step Orderly (init snapshot) es) (h : run step (init snapshot) es = some s) :
    Inv s :=
  TransSys.run_inv (fun _ _ _ hi hok hs => (step_inv hi hok hs).1) (inv_init snapshot) hok h

/-- In every run in which puts land in order and releases delete their own entry, every accepted
update is in the registered document or in the stored snapshot, and no further such step takes an
entry out of the map whose document is not stored. -/
theorem accepted_durable (snapshot : Option (Finset U)) (es : List (Event U)) (s : State U)
    (hok : Meets step Orderly (init snapshot) es) (h : run step (init snapshot) es = some s) :
    Durable s ∧ ∀ e s', Orderly s e → step s e = some s' → LeavesStored s s' := by
  have hi := run_inv hok h
  exact ⟨hi.durable, fun e s' he hs => (step_inv hi he hs).2⟩

/-! ## Two last releases at once -/

namespace Example

/-- A first participant joins: the document is loaded. -/
def join (i : Nat) : List (Event String) := [.retain i, .load, .load, .load, .resume i]

/-- A failed final write keeps the entry; the timer stores it and evicts it. -/
def retry : List (Event String) :=
  join 0 ++ [.applyUpdate "a", .release 1, .putFails 1 false, .resume 1, .tick 2, .resume 2, .resume 2]

/-- A participant leaves, comes back and leaves again while the first final put is in flight. The
first release deletes the entry; a third participant loads a new one and edits; the second release
deletes that one by key. -/
def rejoin : List (Event String) :=
  join 0 ++ [.applyUpdate "a", .release 1, .retain 2, .release 3, .resume 1, .resume 1] ++
    join 4 ++ [.applyUpdate "b", .resume 3, .resume 3]

/-- The put of the timer lands after the put of the release that follows it. -/
def overtaken : List (Event String) :=
  join 0 ++ [.applyUpdate "a", .tick 1, .applyUpdate "b", .release 2, .resume 2, .resume 2, .resume 1]

instance (s : State String) : Decidable (Durable s) :=
  inferInstanceAs (Decidable (s.accepted ⊆ s.stored ∪ s.liveDoc.getD ∅))

end Example

open Example in
theorem retry_durable :
    ((run step (init none) retry).map fun s => (s.snapshot, s.boards)) = some (some {"a"}, none) ∧
    ∀ s, run step (init none) retry = some s →
      Durable s ∧ ∀ e s', Orderly s e → step s e = some s' → LeavesStored s s' :=
  ⟨by decide, fun s h => accepted_durable none retry s (by decide) h⟩

open Example in
theorem rejoin_loses_update :
    ¬ ∀ (es : List (Event String)) (s : State String),
      run step (init none) es = some s → Durable s := by
  intro h
  have hrun : ((run step (init none) rejoin).map fun s => decide (Durable s)) = some false := by decide
  obtain ⟨s, hs, hlost⟩ := Option.map_eq_some_iff.1 hrun
  exact of_decide_eq_false hlost (h rejoin s hs)

open Example in
example : ((run step (init none) overtaken).map fun s => decide (Durable s)) = some false := by decide

end Livetich.Board.Doc
