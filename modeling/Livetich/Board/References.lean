/-
The board documents as a service that counts its clients: the calls of `BoardDocService` with the documents they
destroy, and when a release or a flush takes the registered entry away from nobody.
-/
import Livetich.Lib.Registry
import Livetich.Board.Doc
import Livetich.Sockets.Documents

namespace Livetich.Board.References

open TransSys Livetich.Sockets Doc

variable {U : Type}

/-! ## The service -/

/-- The board documents of a session, with the entries whose document has been destroyed. -/
structure Docs (U : Type) where
  core : Doc.State U
  destroyed : List Nat

/-- What happens besides the calls. -/
inductive Flow
  | load
  | loadFails
  /-- A flush goes on; a put lands. -/
  | resume (i : Nat)
  | putFails (i : Nat) (stored : Bool)
  deriving DecidableEq

def waitsFor : Doc.Task U → Option Nat
  | .retain e => some e
  | _ => none

/-- The task is that of a call of the gateway. -/
def ofGateway : Doc.Task U → Bool
  | .retain _ | .put .release .. | .flushed .release .. => true
  | _ => false

/-- No retain waits for the entry. -/
def unawaited (s : Doc.State U) (e : Nat) : Bool := s.tasks.entries.all fun q => waitsFor q.2 != some e

/-- Nobody holds the registered entry or waits for it. -/
def unheld (s : Doc.State U) : Bool :=
  match s.registered with
  | some (e, x) => x.clients == 0 && unawaited s e
  | none => true

/-- The entry a call of `release` destroys. -/
def released (s : Doc.State U) : Option Nat :=
  s.registered.bind fun p => if p.2.clients - 1 = 0 ∧ p.2.dirty = false then some p.1 else none

/-- A flush that has been stored leaves its entry clean and without clients. -/
def spent (s : Doc.State U) (e revision : Nat) : Bool :=
  (s.heap e).any fun x => !(x.saved revision).dirty && x.clients == 0

/-- The entry that goes when task `i` goes on. -/
def flushed (s : Doc.State U) (i : Nat) : Option Nat :=
  match s.tasks.get i with
  | some (.flushed _ e revision true) => if spent s e revision then some e else none
  | _ => none

def enter (d : Docs U) (i : Nat) : Option (Docs U × Bool) :=
  match d.core.tasks.get i with
  | some (.retain e) => (Doc.resume d.core i (.retain e)).map fun core => ({ d with core }, (d.core.heap e).isSome)
  | _ => none

def release (d : Docs U) (i : Nat) : Docs U where
  core := Doc.release { d.core with held := d.core.held - 1 } i
  destroyed := (released d.core).toList ++ d.destroyed

variable [DecidableEq U]

def step (d : Docs U) : Flow → Option (Docs U)
  | .load => (Doc.step d.core .load).map fun core => { d with core }
  | .loadFails => (Doc.step d.core .loadFails).map fun core => { d with core }
  | .resume i => if ((d.core.tasks.get i).bind waitsFor).isNone then
      (Doc.step d.core (.resume i)).map fun core => { core, destroyed := (flushed d.core i).toList ++ d.destroyed }
    else none
  | .putFails i stored => (Doc.step d.core (.putFails i stored)).map fun core => { d with core }

omit [DecidableEq U] in
/-- The release that destroys the entry leaves no retain waiting for it. -/
def safeRelease (d : Docs U) : Bool := (released d.core).all fun e => unawaited d.core e

omit [DecidableEq U] in
/-- An entry is deleted, or reported empty, while nobody holds the one that is registered or waits for it. -/
def safeStep (d : Docs U) : Flow → Bool
  | .resume i => match d.core.tasks.get i with
    | some (.flushed .release e revision true) => !spent d.core e revision || unheld d.core
    | some (.flushed .release _ _ false) => d.core.registered.all fun p => p.2.clients == 0
    | some (.flushed .timer e revision true) =>
      !spent d.core e revision || d.core.boards != some e || unawaited d.core e
    | _ => true
  | _ => true

def service (U : Type) [DecidableEq U] (snapshot : Option (Finset U)) : Documents.Service where
  State := Docs U
  Update := U
  Event := Flow
  init := ⟨Doc.init snapshot, []⟩
  retain d i := { d with core := Doc.retain d.core i }
  enter := enter
  release := release
  update d u := { d with core := Doc.applyUpdate d.core u }
  tick d i := { d with core := Doc.flushDirty d.core i }
  step := step
  taken d i := (d.core.tasks.get i).isSome
  calls d := d.core.tasks.entries.any fun q => ofGateway q.2
  clients d := d.core.registered.map fun p => (p.2.clients : Int)
  destroyed d := d.core.boards.any fun e => d.destroyed.contains e
  unsaved d := d.core.registered.any fun p => p.2.dirty
  reports d := d.core.returned.countP fun p => p.2
  safeRelease := safeRelease
  safeStep := safeStep

/-! ## The entries as a registry -/

omit [DecidableEq U]

def ended : Load U → Bool
  | .settled => true
  | _ => false

def entries (s : Doc.State U) : Registry.State where
  counts e := (s.heap e).map fun x => (x.clients : Int)
  next := s.nextEntry
  registered := s.boards
  loading := s.loading.map fun l => (l.1, ended l.2)
  waits i := (s.tasks.get i).bind waitsFor

@[simp] theorem entries_setEntry (s : Doc.State U) (e : Nat) (x : BoardEntry U) :
    entries (s.setEntry e x) = { entries s with counts := (entries s).counts.put e (some (x.clients : Int)) } := by
  unfold entries
  rw [Registry.State.mk.injEq]
  exact ⟨Slots.map_put _ s.heap e (some x), rfl, rfl, rfl, rfl⟩

@[simp] theorem entries_goto (s : Doc.State U) (i : Nat) (t : Option (Doc.Task U)) :
    entries (s.goto i t) = { entries s with waits := (entries s).waits.put i (t.bind waitsFor) } := by
  unfold entries
  rw [Registry.State.mk.injEq]
  refine ⟨rfl, rfl, rfl, rfl, ?_⟩
  show (fun j => ((s.tasks.put i t).get j).bind waitsFor) = _
  rw [Pool.get_put, Slots.bind_put]

/-- Who is counted and who waits, and the entry the map holds is there for somebody. -/
structure Counting (s : Doc.State U) : Prop where
  registry : Registry.Inv (entries s)
  kept : ∀ e x, s.boards = some e → s.heap e = some x → x.clients = 0 →
    x.dirty = true ∨ ∃ i, (entries s).waits i = some e

/-- A destroyed document is not registered, and no load brings it back. -/
structure Inv (d : Docs U) : Prop where
  counting : Counting d.core
  dead : ∀ e ∈ d.destroyed, d.core.boards ≠ some e ∧ d.core.heap e ≠ none

theorem unawaited_iff {s : Doc.State U} {e : Nat} : unawaited s e = true ↔ ∀ i, (entries s).waits i ≠ some e := by
  unfold unawaited
  rw [List.all_eq_true]
  constructor
  · intro hall i hi
    obtain ⟨t, ht, hw⟩ := Option.bind_eq_some_iff.1 hi
    have := hall _ (Pool.mem_of_get ht)
    simp [hw] at this
  · rintro hnone ⟨i, t⟩ hmem
    have hw : waitsFor t ≠ some e := by
      intro hw
      refine hnone i ?_
      show (s.tasks.get i).bind waitsFor = some e
      rw [Pool.get_of_mem hmem, Option.bind_some, hw]
    simpa using hw

/-! ## What each write keeps -/

theorem counts_of {s : Doc.State U} {e : Nat} {x : BoardEntry U} (h : s.heap e = some x) :
    (entries s).counts e = some (x.clients : Int) := by
  show (s.heap e).map _ = _
  rw [h]
  rfl

theorem Counting.setEntry {s : Doc.State U} {e : Nat} {x x' : BoardEntry U} (h : Counting s) (hx : s.heap e = some x)
    (hkept : s.boards = some e → x'.clients = 0 → x'.dirty = true ∨ ∃ i, (entries s).waits i = some e) :
    Counting (s.setEntry e x') := by
  constructor
  · rw [entries_setEntry]
    exact h.registry.count (counts_of hx) _
  · intro d z hb hz hzero
    rcases Slots.put_eq_some hz with ⟨rfl, hnew⟩ | ⟨-, hold⟩
    · cases hnew
      exact hkept hb hzero
    · exact h.kept d z hb hold hzero

/-- What the gateway and the store keep has no part in it. -/
theorem Counting.congr {s s' : Doc.State U} (h : Counting s) (hheap : s'.heap = s.heap)
    (hentries : entries s' = entries s) : Counting s' := by
  have hboards : s'.boards = s.boards := congrArg Registry.State.registered hentries
  constructor
  · rw [hentries]
    exact h.registry
  · rw [hentries, hheap, hboards]
    exact h.kept

/-- A task that waits for no entry goes on, and waits for none. -/
theorem Counting.goto {s : Doc.State U} {i : Nat} {t : Option (Doc.Task U)} (h : Counting s)
    (hi : (entries s).waits i = none) (ht : t.bind waitsFor = none) : Counting (s.goto i t) := by
  have hsame : entries (s.goto i t) = entries s := by
    rw [entries_goto, ht, Slots.put_of_eq hi]
  constructor
  · rw [hsame]
    exact h.registry
  · intro d z hb hz hzero
    rw [hsame]
    exact h.kept d z hb hz hzero

/-- A retain waits. -/
theorem Counting.waits {s : Doc.State U} {i e : Nat} (h : Counting s) (hi : (entries s).waits i = none)
    (hregistry : Registry.Inv { entries s with waits := (entries s).waits.put i (some e) }) :
    Counting (s.goto i (some (.retain e))) := by
  constructor
  · rw [entries_goto]
    exact hregistry
  · intro d z hb hz hzero
    rcases h.kept d z hb hz hzero with hdirty | ⟨j, hj⟩
    · exact .inl hdirty
    · have hji : j ≠ i := by
        rintro rfl
        rw [hi] at hj
        cases hj
      refine .inr ⟨j, ?_⟩
      rw [entries_goto]
      exact (Slots.put_of_ne _ _ hji).trans hj

/-- A retain stops waiting for an entry that is counted, kept for its edits, or was never loaded. -/
theorem Counting.leaves {s : Doc.State U} {i e : Nat} (h : Counting s) (hi : (entries s).waits i = some e)
    (hl : s.loading.any (fun l => l.1 == e) = false)
    (hkept : ∀ x, s.heap e = some x → x.clients = 0 → x.dirty = true) : Counting (s.goto i none) := by
  constructor
  · rw [entries_goto]
    refine h.registry.leave fun d hd b hload => ?_
    have hde : d = e := Option.some.inj (hd.symm.trans hi)
    obtain ⟨l, hsome, hl'⟩ := Option.map_eq_some_iff.1 hload
    rw [hsome, Option.any_some, beq_eq_false_iff_ne] at hl
    exact hl ((congrArg Prod.fst hl').trans hde)
  · intro d z hb hz hzero
    rcases h.kept d z hb hz hzero with hdirty | ⟨j, hj⟩
    · exact .inl hdirty
    · by_cases hji : j = i
      · rw [hji, hi, Option.some.injEq] at hj
        rw [← hj] at hz
        exact .inl (hkept z hz hzero)
      · refine .inr ⟨j, ?_⟩
        rw [entries_goto]
        exact (Slots.put_of_ne _ _ hji).trans hj

/-- The map forgets its entry while no retain waits for it. -/
theorem Counting.forget {s : Doc.State U} (h : Counting s) (hw : ∀ e, s.boards = some e → unawaited s e = true) :
    Counting { s with boards := none } := by
  refine ⟨h.registry.forget fun e he => unawaited_iff.1 (hw e he), ?_⟩
  rintro e x ⟨⟩

theorem Counting.registered_eq_none {s : Doc.State U} (h : Counting s) : s.registered = none ↔ s.boards = none := by
  constructor
  · intro hnone
    cases hb : s.boards with
    | none => rfl
    | some e =>
      obtain ⟨n, hn⟩ := h.registry.present e hb
      obtain ⟨x, hx, -⟩ := Option.map_eq_some_iff.1 hn
      rw [State.registered_eq_some.2 ⟨hb, hx⟩] at hnone
      cases hnone
  · intro hb
    unfold State.registered
    rw [hb]
    rfl

/-! ## The calls -/

theorem waits_of {s : Doc.State U} {i : Nat} {t : Option (Doc.Task U)} (h : s.tasks.get i = t) :
    (entries s).waits i = t.bind waitsFor := by
  show (s.tasks.get i).bind waitsFor = _
  rw [h]

theorem loading_of {s : Doc.State U} {e : Nat} {l : Load U} (h : s.loading = some (e, l)) :
    (entries s).loading = some (e, ended l) := by
  show s.loading.map _ = _
  rw [h]
  rfl

theorem Counting.retain {s : Doc.State U} {i : Nat} (h : Counting s) (hi : s.tasks.get i = none) :
    Counting (Doc.retain s i) := by
  unfold Doc.retain
  cases hreg : s.registered with
  | some p =>
    obtain ⟨e, x⟩ := p
    obtain ⟨-, hx⟩ := State.registered_eq_some.1 hreg
    have hcounted : Counting (s.setEntry e { x with clients := x.clients + 1 }) :=
      h.setEntry hx fun _ hzero => absurd hzero (Nat.succ_ne_zero x.clients)
    exact hcounted.congr rfl rfl
  | none =>
    have hb : s.boards = none := h.registered_eq_none.1 hreg
    cases hl : s.loading with
    | some l =>
      obtain ⟨e, l⟩ := l
      exact h.waits (waits_of hi) (h.registry.join (loading_of hl) (waits_of hi))
    | none =>
      constructor
      · rw [entries_goto]
        exact h.registry.load (Option.map_eq_none_iff.2 hl) hb (waits_of hi)
      · intro d z hd
        rw [show s.boards = some d from hd] at hb
        cases hb

/-- A retain that waits no more is counted in at the registered entry, or was never loaded. -/
theorem Counting.arrived {s : Doc.State U} {i e : Nat} (h : Counting s) (hi : s.tasks.get i = some (.retain e))
    (hl : s.loading.any (fun l => l.1 == e) = false) : s.heap e = none ∨ s.boards = some e := by
  obtain ⟨-, ⟨b, hb⟩ | hcounts | hreg⟩ := h.registry.arrives i e (waits_of hi)
  · obtain ⟨l, hsome, hl'⟩ := Option.map_eq_some_iff.1 hb
    rw [hsome, Option.any_some, beq_eq_false_iff_ne] at hl
    exact absurd (congrArg Prod.fst hl') hl
  · exact .inl (Option.map_eq_none_iff.1 hcounts)
  · exact .inr hreg

theorem Counting.countIn {s : Doc.State U} {i e : Nat} {x : BoardEntry U} (h : Counting s)
    (hi : s.tasks.get i = some (.retain e)) (hl : s.loading.any (fun l => l.1 == e) = false)
    (hx : s.heap e = some x) : Counting ((s.countIn e x).goto i none) := by
  have hcounted : Counting (s.setEntry e { x with clients := x.clients + 1 }) :=
    h.setEntry hx fun _ hzero => absurd hzero (Nat.succ_ne_zero x.clients)
  have hleft : Counting ((s.setEntry e { x with clients := x.clients + 1 }).goto i none) := by
    refine hcounted.leaves (waits_of hi) hl fun z hz hzero => ?_
    rw [show (s.setEntry e _).heap e = some _ from Slots.put_self _ _ _, Option.some.injEq] at hz
    rw [← hz] at hzero
    exact absurd hzero (Nat.succ_ne_zero _)
  exact hleft.congr rfl rfl

/-- The loop of `release`, when the entry it may delete is the registered one. -/
theorem Counting.releaseLoop {s : Doc.State U} {i e : Nat} {x x' : BoardEntry U} (h : Counting s)
    (hi : (entries s).waits i = none) (hx : s.heap e = some x)
    (hgone : x'.dirty = false → x'.clients = 0 → ∀ d, s.boards = some d → unawaited s d = true) :
    Counting ((s.setEntry e x').releaseLoop i e x') := by
  have hset : x'.dirty = true ∨ 0 < x'.clients → Counting (s.setEntry e x') := by
    intro hx'
    refine h.setEntry hx fun _ hzero => ?_
    rcases hx' with hdirty | hpos
    · exact .inl hdirty
    · omega
  unfold State.releaseLoop
  split_ifs with hput hpos
  · exact (hset (.inl hput.1)).goto hi rfl
  · have hreturned : Counting ((s.setEntry e x').goto i none) := (hset (.inr hpos)).goto hi rfl
    exact hreturned.congr rfl rfl
  · have hclean : x'.dirty = false ∧ x'.clients = 0 := by
      have hzero : x'.clients = 0 := by omega
      refine ⟨Bool.eq_false_iff.2 fun hdirty => hput ⟨hdirty, hzero⟩, hzero⟩
    have hforgot : Counting { s with boards := none } := h.forget (hgone hclean.1 hclean.2)
    have hgone : Counting (({ s with boards := none } : Doc.State U).setEntry e x') := by
      refine hforgot.setEntry hx ?_
      rintro ⟨⟩
    have hreturned := hgone.goto (t := none) hi rfl
    exact hreturned.congr rfl rfl

theorem Counting.release {s : Doc.State U} {i : Nat} (h : Counting s) (hi : s.tasks.get i = none)
    (hsafe : ∀ e, released s = some e → unawaited s e = true) : Counting (Doc.release s i) := by
  unfold Doc.release
  cases hreg : s.registered with
  | none =>
    have hreturned : Counting (s.goto i none) := h.goto (waits_of hi) rfl
    exact hreturned.congr rfl rfl
  | some p =>
    obtain ⟨e, x⟩ := p
    obtain ⟨hb, hx⟩ := State.registered_eq_some.1 hreg
    dsimp only
    split_ifs with hpos
    · have hset : Counting (s.setEntry e { x with clients := x.clients - 1 }) :=
        h.setEntry hx fun _ hzero => absurd hzero (Nat.pos_iff_ne_zero.1 hpos)
      have hreturned := hset.goto (i := i) (t := none) (waits_of hi) rfl
      exact hreturned.congr rfl rfl
    · have hloop : Counting ((s.setEntry e { x with clients := x.clients - 1 }).releaseLoop i e
          { x with clients := x.clients - 1 }) := by
        refine h.releaseLoop (waits_of hi) hx fun hclean hzero d hd => hsafe d ?_
        unfold released
        rw [hreg, Option.bind_some, if_pos ⟨hzero, hclean⟩, ← hd, hb]
      exact hloop

theorem Counting.applyUpdate [DecidableEq U] {s : Doc.State U} (h : Counting s) (u : U) :
    Counting (Doc.applyUpdate s u) := by
  unfold Doc.applyUpdate
  cases hreg : s.registered with
  | none => exact h
  | some p =>
    obtain ⟨e, x⟩ := p
    obtain ⟨-, hx⟩ := State.registered_eq_some.1 hreg
    have hset : Counting (s.setEntry e { x with doc := insert u x.doc, dirty := true, revision := x.revision + 1 }) :=
      h.setEntry hx fun _ _ => .inl rfl
    exact hset.congr rfl rfl

theorem Counting.flushDirty {s : Doc.State U} {i : Nat} (h : Counting s) (hi : s.tasks.get i = none) :
    Counting (Doc.flushDirty s i) := by
  unfold Doc.flushDirty
  split
  · split
    · exact h.goto (waits_of hi) rfl
    · exact h
  · exact h

/-- The load goes on. -/
theorem Counting.advance {s : Doc.State U} (h : Counting s) : Counting (Doc.advance s) := by
  unfold Doc.advance
  split
  · rename_i e hl
    refine h.congr rfl ?_
    unfold entries
    rw [hl]
    rfl
  · rename_i e snapshot hl
    have hload := loading_of hl
    have hentries : entries { s.setEntry e ⟨snapshot.getD ∅, false, 0, 0⟩ with
        boards := some e
        loading := some (e, .settled) } = { entries s with
        counts := (entries s).counts.put e (some 0)
        registered := some e
        loading := some (e, true) } := by
      unfold entries
      rw [Registry.State.mk.injEq]
      exact ⟨Slots.map_put _ s.heap e _, rfl, rfl, rfl, rfl⟩
    constructor
    · rw [hentries]
      exact h.registry.create hload 0
    · intro d z hd hz hzero
      obtain ⟨i, hi⟩ := h.registry.awaited e _ hload
      cases hd
      exact .inr ⟨i, hi⟩
  · rename_i e hl
    constructor
    · exact h.registry.settle (loading_of hl)
    · exact h.kept
  · exact h

theorem Counting.loadFails {s : Doc.State U} {e : Nat} (h : Counting s) (hl : s.loading = some (e, .reading)) :
    Counting { s with loading := some (e, .settled) } :=
  ⟨h.registry.fail (loading_of hl), h.kept⟩

theorem BoardEntry.saved_clients (x : BoardEntry U) (revision : Nat) : (x.saved revision).clients = x.clients := by
  unfold BoardEntry.saved
  split <;> rfl

theorem spent_iff {s : Doc.State U} {e revision : Nat} {x : BoardEntry U} (h : s.heap e = some x) :
    spent s e revision = true ↔ (x.saved revision).dirty = false ∧ x.clients = 0 := by
  unfold spent
  rw [h, Option.any_some, Bool.and_eq_true, Bool.not_eq_true', beq_iff_eq]

/-- A flush goes on. -/
theorem Counting.resume {s s' : Doc.State U} {i : Nat} {t : Doc.Task U} (h : Counting s) (ht : s.tasks.get i = some t)
    (hwait : waitsFor t = none) (hs : Doc.resume s i t = some s')
    (hsafe : ∀ caller e revision, t = .flushed caller e revision true → spent s e revision = true →
      match caller with
      | .release => ∀ d, s.boards = some d → unawaited s d = true
      | .timer => s.boards = some e → unawaited s e = true) : Counting s' := by
  have hi : (entries s).waits i = none := by
    rw [waits_of ht]
    exact hwait
  cases t with
  | retain e => cases hwait
  | put caller e revision body =>
    cases hs
    have hgone := h.goto (t := some (.flushed caller e revision true)) hi rfl
    exact hgone.congr rfl rfl
  | flushed caller e revision stored =>
    obtain ⟨x, hx, rfl⟩ := Option.map_eq_some_iff.1 hs
    cases stored with
    | false =>
      have hended := h.goto (t := none) hi rfl
      cases caller with
      | release => exact hended.congr rfl rfl
      | timer => exact hended
    | true =>
      have hspent : spent s e revision = true ↔ (x.saved revision).dirty = false ∧ x.clients = 0 := spent_iff hx
      have hclients := BoardEntry.saved_clients x revision
      cases caller with
      | release =>
        refine h.releaseLoop hi hx fun hclean hzero => ?_
        exact hsafe .release e revision rfl (hspent.2 ⟨hclean, by omega⟩)
      | timer =>
        dsimp only
        split_ifs with hgone
        · obtain ⟨hdirty, hzero, hb⟩ := hgone
          have hfree := hsafe .timer e revision rfl (hspent.2 ⟨by simpa using hdirty, by omega⟩) hb
          have hforgot : Counting { s with boards := none } := by
            refine h.forget fun d hd => ?_
            rw [← Option.some.inj (hb.symm.trans hd)]
            exact hfree
          have hset : Counting (({ s with boards := none } : Doc.State U).setEntry e (x.saved revision)) := by
            refine hforgot.setEntry hx ?_
            rintro ⟨⟩
          exact hset.goto hi rfl
        · have hset : Counting (s.setEntry e (x.saved revision)) := by
            refine h.setEntry hx fun hb hzero => .inl ?_
            by_contra hdirty
            exact hgone ⟨hdirty, hzero, hb⟩
          exact hset.goto hi rfl

/-! ## What each call touches -/

/-- At most one entry is written, the map keeps its entry or forgets it, and only task `i` goes on. -/
structure Touches (s s' : Doc.State U) (i : Nat) : Prop where
  heap : s'.heap = s.heap ∨ ∃ e x, s'.heap = s.heap.put e (some x)
  boards : s'.boards = s.boards ∨ s'.boards = none
  tasks : s'.tasks = s.tasks ∨ ∃ t, s'.tasks = s.tasks.put i t

theorem touches_retain (s : Doc.State U) (i : Nat) : Touches s (Doc.retain s i) i := by
  unfold Doc.retain
  split
  · rename_i e x hreg
    exact ⟨.inr ⟨e, _, rfl⟩, .inl rfl, .inl rfl⟩
  · split
    · exact ⟨.inl rfl, .inl rfl, .inr ⟨_, rfl⟩⟩
    · exact ⟨.inl rfl, .inl rfl, .inr ⟨_, rfl⟩⟩

theorem touches_releaseLoop (s : Doc.State U) (i e : Nat) (x : BoardEntry U) :
    Touches s ((s.setEntry e x).releaseLoop i e x) i := by
  unfold State.releaseLoop
  split_ifs
  · exact ⟨.inr ⟨e, x, rfl⟩, .inl rfl, .inr ⟨_, rfl⟩⟩
  · exact ⟨.inr ⟨e, x, rfl⟩, .inl rfl, .inr ⟨_, rfl⟩⟩
  · exact ⟨.inr ⟨e, x, rfl⟩, .inr rfl, .inr ⟨_, rfl⟩⟩

theorem touches_release (s : Doc.State U) (i : Nat) : Touches s (Doc.release s i) i := by
  unfold Doc.release
  split
  · rename_i e x hreg
    dsimp only
    split_ifs
    · exact ⟨.inr ⟨e, _, rfl⟩, .inl rfl, .inr ⟨_, rfl⟩⟩
    · exact touches_releaseLoop s i e _
  · exact ⟨.inl rfl, .inl rfl, .inr ⟨_, rfl⟩⟩

theorem touches_resume {s s' : Doc.State U} {i : Nat} {t : Doc.Task U} (hs : Doc.resume s i t = some s') :
    Touches s s' i := by
  cases t with
  | retain e =>
    simp only [Doc.resume, Option.ite_none_left_eq_some, Option.some.injEq] at hs
    obtain ⟨-, rfl⟩ := hs
    split
    · exact ⟨.inr ⟨e, _, rfl⟩, .inl rfl, .inr ⟨_, rfl⟩⟩
    · exact ⟨.inl rfl, .inl rfl, .inr ⟨_, rfl⟩⟩
  | put caller e revision body =>
    cases hs
    exact ⟨.inl rfl, .inl rfl, .inr ⟨_, rfl⟩⟩
  | flushed caller e revision stored =>
    obtain ⟨x, hx, rfl⟩ := Option.map_eq_some_iff.1 hs
    cases stored <;> cases caller
    · exact ⟨.inl rfl, .inl rfl, .inr ⟨_, rfl⟩⟩
    · exact ⟨.inl rfl, .inl rfl, .inr ⟨_, rfl⟩⟩
    · exact touches_releaseLoop s i e _
    · dsimp only
      split_ifs
      · exact ⟨.inr ⟨e, _, rfl⟩, .inr rfl, .inr ⟨_, rfl⟩⟩
      · exact ⟨.inr ⟨e, _, rfl⟩, .inl rfl, .inr ⟨_, rfl⟩⟩

theorem Touches.get_eq {s s' : Doc.State U} {i j : Nat} (h : Touches s s' i) (hj : j ≠ i) :
    s'.tasks.get j = s.tasks.get j := by
  rcases h.tasks with htasks | ⟨t, htasks⟩
  · rw [htasks]
  · rw [htasks, Pool.get_put_of_ne hj]

theorem Touches.taken {s s' : Doc.State U} {i j : Nat} (h : Touches s s' i) (hj : j ≠ i)
    (htaken : (s'.tasks.get j).isSome = true) : (s.tasks.get j).isSome = true := by
  rw [← h.get_eq hj]
  exact htaken

theorem Touches.heap_ne_none {s s' : Doc.State U} {i e : Nat} (h : Touches s s' i) (he : s.heap e ≠ none) :
    s'.heap e ≠ none := by
  rcases h.heap with hheap | ⟨d, x, hheap⟩
  · rw [hheap]
    exact he
  · rw [hheap]
    by_cases hed : e = d
    · rw [hed, Slots.put_self]
      rintro ⟨⟩
    · rw [Slots.put_of_ne _ _ hed]
      exact he

/-- The destroyed documents stay out of the map. -/
theorem Inv.touched {d : Docs U} {s' : Doc.State U} {i : Nat} (h : Inv d) (gone : Option Nat)
    (hcounting : Counting s') (htouches : Touches d.core s' i)
    (hgone : ∀ e, gone = some e → s'.boards ≠ some e ∧ s'.heap e ≠ none) : Inv ⟨s', gone.toList ++ d.destroyed⟩ := by
  refine ⟨hcounting, fun e he => ?_⟩
  rcases List.mem_append.1 he with hnew | hold
  · exact hgone e (Option.mem_toList.1 hnew)
  · obtain ⟨hboards, hheap⟩ := h.dead e hold
    refine ⟨?_, htouches.heap_ne_none hheap⟩
    rcases htouches.boards with hsame | hnone
    · rw [hsame]
      exact hboards
    · rw [hnone]
      rintro ⟨⟩

/-! ## The counter -/

def clients (s : Doc.State U) : Option Int := s.registered.map fun p => (p.2.clients : Int)

theorem clients_of {s : Doc.State U} {e : Nat} {x : BoardEntry U} (hb : s.boards = some e) (hx : s.heap e = some x) :
    clients s = some (x.clients : Int) := by
  unfold clients
  rw [State.registered_eq_some.2 ⟨hb, hx⟩]
  rfl

theorem clients_none {s : Doc.State U} (hb : s.boards = none) : clients s = none := by
  unfold clients State.registered
  rw [hb]
  rfl

/-- An entry written with the count it had. -/
theorem clients_put {s s' : Doc.State U} {e : Nat} {x x' : BoardEntry U} (hx : s.heap e = some x)
    (hheap : s'.heap = s.heap.put e (some x')) (hb : s'.boards = s.boards) (hx' : x'.clients = x.clients) :
    clients s' = clients s := by
  unfold clients State.registered
  rw [hb]
  cases s.boards with
  | none => rfl
  | some d =>
    rw [Option.bind_some, Option.bind_some, hheap]
    by_cases hde : d = e
    · subst hde
      rw [Slots.put_self, hx]
      show some (x'.clients : Int) = some (x.clients : Int)
      rw [hx']
    · rw [Slots.put_of_ne _ _ hde]

/-- How often `release` has reported the room empty. -/
def reports (s : Doc.State U) : Nat := s.returned.countP fun p => p.2

theorem reports_return (s : Doc.State U) (i : Nat) (result : Bool) :
    reports (s.return_ i result) = reports s + result.toNat := by
  show (s.returned ++ [(i, result)]).countP _ = _
  rw [List.countP_append]
  cases result <;> rfl

/-- The loop of `release` keeps the entry, or deletes it and reports the room empty. -/
theorem releaseLoop_cases (s : Doc.State U) (i e : Nat) (x : BoardEntry U) :
    ((x.dirty = true ∨ 0 < x.clients) ∧ (s.releaseLoop i e x).boards = s.boards ∧
      (s.releaseLoop i e x).heap = s.heap ∧ reports (s.releaseLoop i e x) = reports s) ∨
    (x.dirty = false ∧ x.clients = 0 ∧ (s.releaseLoop i e x).boards = none) := by
  unfold State.releaseLoop
  split_ifs with hput hpos
  · exact .inl ⟨.inl hput.1, rfl, rfl, rfl⟩
  · exact .inl ⟨.inr hpos, rfl, rfl, reports_return s i false⟩
  · right
    have hzero : x.clients = 0 := by omega
    exact ⟨Bool.eq_false_iff.2 fun hdirty => hput ⟨hdirty, hzero⟩, hzero, rfl⟩

theorem release_cases {s : Doc.State U} {i e : Nat} {x : BoardEntry U} (hreg : s.registered = some (e, x))
    (hpos : 0 < x.clients) :
    (clients (Doc.release s i) = some ((x.clients : Int) - 1) ∧ reports (Doc.release s i) = reports s ∧
      released s = none) ∨
    (x.clients = 1 ∧ released s = some e ∧ (Doc.release s i).boards = none) := by
  obtain ⟨hb, hx⟩ := State.registered_eq_some.1 hreg
  have hcast : ((x.clients - 1 : Nat) : Int) = (x.clients : Int) - 1 := by omega
  have hset : clients (s.setEntry e { x with clients := x.clients - 1 }) = some ((x.clients : Int) - 1) := by
    rw [← hcast]
    exact clients_of (s := s.setEntry e { x with clients := x.clients - 1 }) hb (Slots.put_self _ _ _)
  unfold released Doc.release
  rw [hreg]
  dsimp only [Option.bind_some]
  split_ifs with hlast hgone hgone
  · omega
  · exact .inl ⟨hset, reports_return _ i false, rfl⟩
  · right
    rcases releaseLoop_cases (s.setEntry e { x with clients := x.clients - 1 }) i e { x with clients := x.clients - 1 }
      with ⟨hdirty | hclients, -⟩ | ⟨-, -, hnone⟩
    · rw [hgone.2] at hdirty
      cases hdirty
    · exact absurd hclients hlast
    · exact ⟨by omega, rfl, hnone⟩
  · left
    rcases releaseLoop_cases (s.setEntry e { x with clients := x.clients - 1 }) i e { x with clients := x.clients - 1 }
      with ⟨-, hboards, hheap, hreports⟩ | ⟨hclean, hzero, -⟩
    · refine ⟨?_, hreports, rfl⟩
      rw [← hset]
      unfold clients State.registered
      rw [hboards, hheap]
    · exact absurd ⟨hzero, hclean⟩ hgone

/-- A flush that goes on leaves the counter, or deletes an entry nobody holds. -/
theorem resume_cases {s s' : Doc.State U} {i : Nat} {t : Doc.Task U} (hwait : waitsFor t = none)
    (hs : Doc.resume s i t = some s')
    (hsafe : match t with
      | .flushed .release e revision true => spent s e revision = true → unheld s = true
      | .flushed .release _ _ false => s.registered.all (fun p => p.2.clients == 0) = true
      | _ => True) :
    (reports s' = reports s ∨ clients s' = none ∨ clients s' = some 0) ∧
      (clients s' = clients s ∨ clients s = some 0 ∧ clients s' = none) := by
  cases t with
  | retain e => cases hwait
  | put caller e revision body =>
    cases hs
    exact ⟨.inl rfl, .inl rfl⟩
  | flushed caller e revision stored =>
    obtain ⟨x, hx, rfl⟩ := Option.map_eq_some_iff.1 hs
    have hput : clients (s.setEntry e (x.saved revision)) = clients s :=
      clients_put hx rfl rfl (BoardEntry.saved_clients x revision)
    cases stored with
    | false =>
      cases caller with
      | timer => exact ⟨.inl rfl, .inl rfl⟩
      | release =>
        refine ⟨.inr ?_, .inl rfl⟩
        show clients s = none ∨ clients s = some 0
        unfold clients
        cases hreg : s.registered with
        | none => exact .inl rfl
        | some p =>
          rw [hreg, Option.all_some, beq_iff_eq] at hsafe
          right
          rw [Option.map_some, hsafe]
          rfl
    | true =>
      cases caller with
      | release =>
        dsimp only
        rcases releaseLoop_cases (s.setEntry e (x.saved revision)) i e (x.saved revision) with
          ⟨-, hboards, hheap, hreports⟩ | ⟨hclean, hzero, hnone⟩
        · refine ⟨.inl hreports, .inl ?_⟩
          rw [← hput]
          unfold clients State.registered
          rw [hboards, hheap]
        · rw [clients_none hnone]
          refine ⟨.inr (.inl rfl), ?_⟩
          have hunheld := hsafe ((spent_iff hx).2 ⟨hclean, by rw [← BoardEntry.saved_clients x revision, hzero]⟩)
          unfold unheld at hunheld
          unfold clients
          cases hreg : s.registered with
          | none => exact .inl rfl
          | some p =>
            rw [hreg] at hunheld
            simp only [Bool.and_eq_true, beq_iff_eq] at hunheld
            right
            rw [Option.map_some, hunheld.1]
            exact ⟨rfl, rfl⟩
      | timer =>
        dsimp only
        split_ifs with hgone
        · obtain ⟨-, hzero, hb⟩ := hgone
          have hsome : clients s = some ((x.clients : Nat) : Int) := clients_of hb hx
          rw [BoardEntry.saved_clients] at hzero
          rw [hzero] at hsome
          exact ⟨.inl rfl, .inr ⟨hsome, clients_none rfl⟩⟩
        · exact ⟨.inl rfl, .inl hput⟩

/-- The entry that goes is not registered afterwards. -/
theorem flushed_gone {s s' : Doc.State U} {i e : Nat} {t : Doc.Task U} (ht : s.tasks.get i = some t)
    (hs : Doc.resume s i t = some s') (hgone : flushed s i = some e) : s'.boards ≠ some e ∧ s'.heap e ≠ none := by
  unfold flushed at hgone
  rw [ht] at hgone
  split at hgone
  · rename_i caller d revision heq
    obtain rfl : t = .flushed caller d revision true := Option.some.inj heq
    rw [Option.ite_none_right_eq_some, Option.some.injEq] at hgone
    obtain ⟨hspent, rfl⟩ := hgone
    have htouches := touches_resume hs
    obtain ⟨x, hx, rfl⟩ := Option.map_eq_some_iff.1 hs
    obtain ⟨hclean, hzero⟩ := (spent_iff hx).1 hspent
    rw [← BoardEntry.saved_clients x revision] at hzero
    refine ⟨?_, htouches.heap_ne_none (by rw [hx]; rintro ⟨⟩)⟩
    cases caller with
    | release =>
      dsimp only
      rcases releaseLoop_cases (s.setEntry d (x.saved revision)) i d (x.saved revision) with
        ⟨hdirty | hpos, -⟩ | ⟨-, -, hnone⟩
      · rw [hclean] at hdirty
        cases hdirty
      · omega
      · rw [hnone]
        rintro ⟨⟩
    | timer =>
      dsimp only
      split_ifs with hdel
      · rintro ⟨⟩
      · intro hb
        refine hdel ⟨?_, hzero, hb⟩
        rw [hclean]
        rintro ⟨⟩
  · cases hgone

/-! ## The service counts right -/

theorem inv_init (snapshot : Option (Finset U)) : Inv ⟨Doc.init snapshot, []⟩ := by
  refine ⟨⟨⟨?_, ?_, ?_, ?_, ?_, ?_⟩, ?_⟩, ?_⟩
  · rintro e ⟨⟩
  · rintro e n ⟨⟩
  · rintro e ⟨⟩
  · rintro e ⟨⟩
  · rintro e b ⟨⟩
  · rintro i e ⟨⟩
  · rintro e x ⟨⟩
  · rintro e ⟨⟩

theorem clients_eq_registered {s : Doc.State U} {n : Int} (h : clients s = some n) :
    ∃ e x, s.registered = some (e, x) ∧ (x.clients : Int) = n := by
  obtain ⟨⟨e, x⟩, hreg, hn⟩ := Option.map_eq_some_iff.1 h
  exact ⟨e, x, hreg, hn⟩

variable [DecidableEq U]

omit [DecidableEq U] in
theorem not_taken {s : Doc.State U} {i : Nat} (h : (s.tasks.get i).isSome = false) : s.tasks.get i = none := by
  cases ht : s.tasks.get i with
  | none => rfl
  | some t =>
    rw [ht] at h
    cases h

theorem sound_retain (snapshot : Option (Finset U)) (d : Docs U) (i : Nat) (h : Inv d)
    (hfree : (d.core.tasks.get i).isSome = false) :
    Inv { d with core := Doc.retain d.core i } ∧
    Documents.Effect (V := service U snapshot) d { d with core := Doc.retain d.core i } i ∧
    (((Doc.retain d.core i).tasks.get i).isSome = true ∧ clients (Doc.retain d.core i) = clients d.core ∨
      ((Doc.retain d.core i).tasks.get i).isSome = false ∧
        ∃ n, clients d.core = some n ∧ clients (Doc.retain d.core i) = some (n + 1)) := by
  have hi : d.core.tasks.get i = none := not_taken hfree
  have htouches := touches_retain d.core i
  refine ⟨h.touched none (h.counting.retain hi) htouches (by rintro e ⟨⟩), ⟨fun j hj => htouches.taken hj, .inl ?_⟩, ?_⟩
  · show reports (Doc.retain d.core i) = reports d.core
    unfold Doc.retain
    split
    · rfl
    · split <;> rfl
  · unfold Doc.retain
    split
    · rename_i e x hreg
      obtain ⟨hb, hx⟩ := State.registered_eq_some.1 hreg
      refine .inr ⟨hfree, (x.clients : Int), clients_of hb hx, ?_⟩
      have hcount := clients_of (s := d.core.countIn e x) hb (Slots.put_self _ _ _)
      rw [hcount]
      rfl
    · left
      split
      · refine ⟨?_, rfl⟩
        show ((d.core.tasks.put i _).get i).isSome = true
        rw [Pool.get_put_self]
        rfl
      · refine ⟨?_, rfl⟩
        show ((d.core.tasks.put i _).get i).isSome = true
        rw [Pool.get_put_self]
        rfl

theorem sound_enter (snapshot : Option (Finset U)) (d : Docs U) (i : Nat) (p : Docs U × Bool) (h : Inv d)
    (hp : enter d i = some p) :
    Inv p.1 ∧ Documents.Effect (V := service U snapshot) d p.1 i ∧ (p.1.core.tasks.get i).isSome = false ∧
    if p.2 then ∃ n, clients d.core = some n ∧ clients p.1.core = some (n + 1)
    else clients p.1.core = clients d.core := by
  unfold enter at hp
  split at hp
  · rename_i e hi
    obtain ⟨s', hs, rfl⟩ := Option.map_eq_some_iff.1 hp
    have htouches := touches_resume hs
    simp only [Doc.resume, Option.ite_none_left_eq_some, Option.some.injEq, Bool.not_eq_true] at hs
    obtain ⟨hl, rfl⟩ := hs
    have hended : ∀ s : Doc.State U, ((s.goto i none).tasks.get i).isSome = false := by
      intro s
      show ((s.tasks.put i none).get i).isSome = false
      rw [Pool.get_put_self]
      rfl
    cases hx : d.core.heap e with
    | none =>
      rw [hx] at htouches
      have hleft : Counting (d.core.goto i none) := by
        refine h.counting.leaves (waits_of hi) hl fun x hsome => ?_
        rw [hx] at hsome
        cases hsome
      refine ⟨h.touched none hleft htouches (by rintro e ⟨⟩), ⟨fun j hj => htouches.taken hj, .inl rfl⟩, hended _, ?_⟩
      rfl
    | some x =>
      rw [hx] at htouches
      have hb : d.core.boards = some e := by
        rcases h.counting.arrived hi hl with hnone | hb
        · rw [hx] at hnone
          cases hnone
        · exact hb
      refine ⟨h.touched none (h.counting.countIn hi hl hx) htouches (by rintro e ⟨⟩),
        ⟨fun j hj => htouches.taken hj, .inl rfl⟩, hended _, ?_⟩
      refine ⟨(x.clients : Int), clients_of hb hx, ?_⟩
      exact clients_of (s := (d.core.countIn e x).goto i none) hb (Slots.put_self _ _ _)
  · cases hp

theorem sound_release (snapshot : Option (Finset U)) (d : Docs U) (i : Nat) (n : Int) (h : Inv d)
    (hfree : (d.core.tasks.get i).isSome = false) (hsafe : safeRelease d = true) (hn : clients d.core = some n)
    (hpos : 0 < n) :
    Inv (release d i) ∧ Documents.Effect (V := service U snapshot) d (release d i) i ∧
      (clients (release d i).core = some (n - 1) ∨ n = 1 ∧ clients (release d i).core = none) := by
  obtain ⟨e, x, hreg, rfl⟩ := clients_eq_registered hn
  have hi : d.core.tasks.get i = none := not_taken hfree
  have hcore : Counting { d.core with held := d.core.held - 1 } := h.counting.congr rfl rfl
  have hunawaited : ∀ e, released d.core = some e → unawaited d.core e = true := by
    intro e he
    unfold safeRelease at hsafe
    rw [he, Option.all_some] at hsafe
    exact hsafe
  have hcounting : Counting (release d i).core := hcore.release hi hunawaited
  have htouched := touches_release { d.core with held := d.core.held - 1 } i
  have htouches : Touches d.core (release d i).core i := ⟨htouched.heap, htouched.boards, htouched.tasks⟩
  have hreg' : ({ d.core with held := d.core.held - 1 } : Doc.State U).registered = some (e, x) := hreg
  rcases release_cases (i := i) hreg' (by omega) with ⟨hclients, hreports, hnone⟩ | ⟨hone, hgone, hboards⟩
  · refine ⟨?_, ⟨fun j hj => htouches.taken hj, .inl hreports⟩, .inl hclients⟩
    refine h.touched (released d.core) hcounting htouches fun d' hd' => ?_
    rw [show released d.core = none from hnone] at hd'
    cases hd'
  · have hend : clients (release d i).core = none := clients_none hboards
    refine ⟨?_, ⟨fun j hj => htouches.taken hj, .inr (.inl hend)⟩, .inr ⟨by omega, hend⟩⟩
    refine h.touched (released d.core) hcounting htouches fun d' hd' => ?_
    rw [show released d.core = some e from hgone] at hd'
    cases hd'
    obtain ⟨-, hx⟩ := State.registered_eq_some.1 hreg
    refine ⟨fun hb => ?_, htouches.heap_ne_none (by rw [hx]; rintro ⟨⟩)⟩
    cases hboards.symm.trans hb

theorem sound_update (snapshot : Option (Finset U)) (d : Docs U) (u : U) (i : Nat) (h : Inv d) :
    Inv { d with core := Doc.applyUpdate d.core u } ∧
    Documents.Effect (V := service U snapshot) d { d with core := Doc.applyUpdate d.core u } i ∧
    clients (Doc.applyUpdate d.core u) = clients d.core ∧
    ((Doc.applyUpdate d.core u).tasks.get i).isSome = (d.core.tasks.get i).isSome := by
  have htouches : Touches d.core (Doc.applyUpdate d.core u) i := by
    unfold Doc.applyUpdate
    split
    · exact ⟨.inr ⟨_, _, rfl⟩, .inl rfl, .inl rfl⟩
    · exact ⟨.inl rfl, .inl rfl, .inl rfl⟩
  refine ⟨h.touched none (h.counting.applyUpdate u) htouches (by rintro e ⟨⟩),
    ⟨fun j hj => htouches.taken hj, .inl ?_⟩, ?_, ?_⟩
  · show reports (Doc.applyUpdate d.core u) = reports d.core
    unfold Doc.applyUpdate
    split <;> rfl
  · unfold Doc.applyUpdate
    split
    · rename_i e x hreg
      obtain ⟨-, hx⟩ := State.registered_eq_some.1 hreg
      exact clients_put hx rfl rfl rfl
    · rfl
  · unfold Doc.applyUpdate
    split <;> rfl

theorem sound_tick (snapshot : Option (Finset U)) (d : Docs U) (i : Nat) (h : Inv d)
    (hfree : (d.core.tasks.get i).isSome = false) :
    Inv { d with core := Doc.flushDirty d.core i } ∧
    Documents.Effect (V := service U snapshot) d { d with core := Doc.flushDirty d.core i } i ∧
    clients (Doc.flushDirty d.core i) = clients d.core := by
  have hi : d.core.tasks.get i = none := not_taken hfree
  have hframe : Touches d.core (Doc.flushDirty d.core i) i ∧ reports (Doc.flushDirty d.core i) = reports d.core ∧
      clients (Doc.flushDirty d.core i) = clients d.core := by
    unfold Doc.flushDirty
    split
    · split
      · exact ⟨⟨.inl rfl, .inl rfl, .inr ⟨_, rfl⟩⟩, rfl, rfl⟩
      · exact ⟨⟨.inl rfl, .inl rfl, .inl rfl⟩, rfl, rfl⟩
    · exact ⟨⟨.inl rfl, .inl rfl, .inl rfl⟩, rfl, rfl⟩
  obtain ⟨htouches, hreports, hclients⟩ := hframe
  exact ⟨h.touched none (h.counting.flushDirty hi) htouches (by rintro e ⟨⟩),
    ⟨fun j hj => htouches.taken hj, .inl hreports⟩, hclients⟩

omit [DecidableEq U] in
/-- The load registers a new entry without clients, or leaves the counter. -/
theorem advance_spec {d : Docs U} (h : Inv d) : Inv { d with core := Doc.advance d.core } ∧
    (Doc.advance d.core).tasks = d.core.tasks ∧ reports (Doc.advance d.core) = reports d.core ∧
    (clients (Doc.advance d.core) = clients d.core ∨
      clients d.core = none ∧ clients (Doc.advance d.core) = some 0) := by
  have hcounting := h.counting.advance
  unfold Doc.advance at hcounting ⊢
  split
  · rename_i e hl
    rw [hl] at hcounting
    exact ⟨⟨hcounting, h.dead⟩, rfl, rfl, .inl rfl⟩
  · rename_i e snapshot hl
    rw [hl] at hcounting
    obtain ⟨-, hcounts, hnone⟩ := h.counting.registry.pending e (loading_of hl)
    have hfresh : d.core.heap e = none := Option.map_eq_none_iff.1 hcounts
    refine ⟨⟨hcounting, fun c hc => ?_⟩, rfl, rfl, .inr ⟨clients_none hnone, ?_⟩⟩
    · have hce : c ≠ e := by
        rintro rfl
        exact (h.dead c hc).2 hfresh
      refine ⟨fun hb => hce (Option.some.inj hb).symm, ?_⟩
      show d.core.heap.put e _ c ≠ none
      rw [Slots.put_of_ne _ _ hce]
      exact (h.dead c hc).2
    · exact clients_of (s := { d.core.setEntry e ⟨snapshot.getD ∅, false, 0, 0⟩ with
        boards := some e
        loading := some (e, .settled) }) rfl (Slots.put_self _ _ _)
  · rename_i e hl
    rw [hl] at hcounting
    exact ⟨⟨hcounting, h.dead⟩, rfl, rfl, .inl rfl⟩
  · exact ⟨h, rfl, rfl, .inl rfl⟩

theorem sound_step (d d' : Docs U) (e : Flow) (h : Inv d) (hsafe : safeStep d e = true) (hs : step d e = some d') :
    Inv d' ∧ (∀ j, (d'.core.tasks.get j).isSome = true → (d.core.tasks.get j).isSome = true) ∧
    (reports d'.core = reports d.core ∨ clients d'.core = none ∨ clients d'.core = some 0) ∧
    (clients d'.core = clients d.core ∨ clients d.core = none ∧ clients d'.core = some 0 ∨
      clients d.core = some 0 ∧ clients d'.core = none) := by
  cases e with
  | load =>
    obtain ⟨core, hcore, rfl⟩ := Option.map_eq_some_iff.1 hs
    obtain ⟨l, -, rfl⟩ := Option.map_eq_some_iff.1 hcore
    obtain ⟨hinv, htasks, hreports, hclients⟩ := advance_spec h
    refine ⟨hinv, fun j hj => ?_, .inl hreports, ?_⟩
    · rw [← htasks]
      exact hj
    · rcases hclients with hsame | hnew
      · exact .inl hsame
      · exact .inr (.inl hnew)
  | loadFails =>
    obtain ⟨core, hcore, rfl⟩ := Option.map_eq_some_iff.1 hs
    unfold Doc.step at hcore
    dsimp only at hcore
    split at hcore
    · rename_i e hl
      cases hcore
      exact ⟨⟨h.counting.loadFails hl, h.dead⟩, fun _ hj => hj, .inl rfl, .inl rfl⟩
    · cases hcore
  | resume i =>
    unfold step at hs
    simp only [Option.ite_none_right_eq_some] at hs
    obtain ⟨hwait, hs⟩ := hs
    obtain ⟨core, hcore, rfl⟩ := Option.map_eq_some_iff.1 hs
    obtain ⟨t, ht, hcore⟩ := Option.bind_eq_some_iff.1 hcore
    have hwait : waitsFor t = none := by
      rw [ht] at hwait
      exact Option.isNone_iff_eq_none.1 hwait
    have htouches := touches_resume hcore
    have hkept : Counting core := by
      refine h.counting.resume ht hwait hcore fun caller e revision heq hspent => ?_
      subst heq
      simp only [safeStep, ht] at hsafe
      cases caller with
      | release =>
        intro c hc
        simp only [hspent, Bool.not_true, Bool.false_or] at hsafe
        unfold unheld at hsafe
        split at hsafe
        · rename_i b x hreg
          rw [Bool.and_eq_true] at hsafe
          obtain ⟨hb, -⟩ := State.registered_eq_some.1 hreg
          rw [← Option.some.inj (hb.symm.trans hc)]
          exact hsafe.2
        · rename_i hnone
          cases (h.counting.registered_eq_none.1 hnone).symm.trans hc
      | timer =>
        intro hb
        simpa [hspent, hb] using hsafe
    have hresult := resume_cases hwait hcore (by
      simp only [safeStep, ht] at hsafe
      split
      · intro hspent
        simpa [hspent] using hsafe
      · exact hsafe
      · trivial)
    obtain ⟨hreports, hclients⟩ := hresult
    refine ⟨h.touched _ hkept htouches fun e he => flushed_gone ht hcore he, fun j hj => ?_, hreports, ?_⟩
    · by_cases hji : j = i
      · rw [hji, ht]
        rfl
      · exact htouches.taken hji hj
    · rcases hclients with hsame | hend
      · exact .inl hsame
      · exact .inr (.inr hend)
  | putFails i stored =>
    obtain ⟨core, hcore, rfl⟩ := Option.map_eq_some_iff.1 hs
    unfold Doc.step at hcore
    dsimp only at hcore
    split at hcore
    · rename_i caller e revision body ht
      cases hcore
      have hgone := h.counting.goto (t := some (.flushed caller e revision false)) (waits_of ht) rfl
      refine ⟨⟨hgone.congr rfl rfl, h.dead⟩, fun j hj => ?_, .inl rfl, .inl rfl⟩
      by_cases hji : j = i
      · rw [hji, ht]
        rfl
      · have hget : (d.core.tasks.put i (some (.flushed caller e revision false))).get j = d.core.tasks.get j := by
          rw [Pool.get_put_of_ne hji]
        rw [← hget]
        exact hj
    · cases hcore

/-- The board documents count their clients right, as long as no entry is taken away from anyone. -/
theorem sound (snapshot : Option (Finset U)) : Documents.Sound (service U snapshot) Inv where
  init := ⟨inv_init snapshot, rfl⟩
  retain := sound_retain snapshot
  enter := sound_enter snapshot
  release := sound_release snapshot
  update := sound_update snapshot
  tick := sound_tick snapshot
  step d e d' := sound_step d d' e
  alive d h := by
    show d.core.boards.any (fun e => d.destroyed.contains e) = false
    cases hb : d.core.boards with
    | none => rfl
    | some e =>
      rw [Option.any_some]
      refine Bool.eq_false_iff.2 fun hmem => ?_
      exact (h.dead e (List.contains_iff_mem.1 hmem)).1 hb
  left d h hcalls hzero := by
    obtain ⟨e, x, hreg, hx⟩ := clients_eq_registered hzero
    obtain ⟨hb, hheap⟩ := State.registered_eq_some.1 hreg
    show d.core.registered.any (fun p => p.2.dirty) = true
    rw [hreg, Option.any_some]
    rcases h.counting.kept e x hb hheap (by omega) with hdirty | ⟨i, hi⟩
    · exact hdirty
    · obtain ⟨t, ht, hwait⟩ := Option.bind_eq_some_iff.1 hi
      have hnone := List.any_eq_false.1 hcalls _ (Pool.mem_of_get ht)
      cases t with
      | retain e => exact absurd rfl hnone
      | put caller e revision body => cases hwait
      | flushed caller e revision stored => cases hwait

end Livetich.Board.References
