/-
The viewers of the board and of the code editor: what their services say of the registered document, and that whoever
has joined has exactly that document as long as the service takes no entry away and no socket leaves the room under a
join of its own.
-/
import Livetich.Sockets.References
import Livetich.Sockets.Viewers

/-! ## The board -/

namespace Livetich.Board.References

open TransSys Livetich.Sockets Livetich.Sockets.Viewers Doc

variable {U : Type}

/-- The number of the registered entry. -/
def entry (s : Doc.State U) : Option Nat := s.registered.map (·.1)

/-- `onUpdate` relays to the others first, and whatever `applyUpdate` makes of the update. -/
def serving [DecidableEq U] (snapshot : Option (Finset U)) : Serving (service U snapshot) where
  entry d := entry d.core
  applies d _ := (entry d.core).isSome
  relays _ _ := true
  echoes _ := false
  replays := true

theorem entry_congr {s s' : Doc.State U} (hboards : s'.boards = s.boards)
    (hheap : ∀ e, (s'.heap e).isSome = (s.heap e).isSome) : entry s' = entry s := by
  unfold entry State.registered
  rw [hboards]
  exact Slots.name_congr hheap _

/-- The entry stays, or the map holds none, or one without clients. -/
def Stays (s s' : Doc.State U) : Prop :=
  entry s' = entry s ∨ clients s' = none ∨ clients s' = some 0

theorem Stays.congr {s s' : Doc.State U} (hboards : s'.boards = s.boards)
    (hheap : ∀ e, (s'.heap e).isSome = (s.heap e).isSome) : Stays s s' :=
  .inl (entry_congr hboards hheap)

theorem Stays.forgotten {s s' : Doc.State U} (h : s'.boards = none) : Stays s s' := by
  refine .inr (.inl ?_)
  unfold clients State.registered
  rw [h]
  rfl

theorem stays_retain (s : Doc.State U) (i : Nat) : Stays s (Doc.retain s i) := by
  unfold Doc.retain
  split
  · next e x hreg =>
    obtain ⟨-, hx⟩ := State.registered_eq_some.1 hreg
    exact .congr rfl (Slots.isSome_put _ hx)
  · split
    · exact .congr rfl fun _ => rfl
    · exact .congr rfl fun _ => rfl

theorem stays_loop {s : Doc.State U} {i e : Nat} {x x' : BoardEntry U} (hx : s.heap e = some x) :
    Stays s ((s.setEntry e x').releaseLoop i e x') := by
  unfold State.releaseLoop
  split
  · exact .congr rfl (Slots.isSome_put _ hx)
  · split
    · exact .congr rfl (Slots.isSome_put _ hx)
    · exact .forgotten rfl

theorem stays_release (s : Doc.State U) (i : Nat) : Stays s (Doc.release s i) := by
  unfold Doc.release
  split
  · next e x hreg =>
    obtain ⟨-, hx⟩ := State.registered_eq_some.1 hreg
    dsimp only
    split
    · exact .congr rfl (Slots.isSome_put _ hx)
    · exact stays_loop hx
  · exact .congr rfl fun _ => rfl

theorem stays_update [DecidableEq U] (s : Doc.State U) (u : U) : Stays s (Doc.applyUpdate s u) := by
  unfold Doc.applyUpdate
  split
  · next e x hreg =>
    obtain ⟨-, hx⟩ := State.registered_eq_some.1 hreg
    exact .congr rfl (Slots.isSome_put _ hx)
  · exact .congr rfl fun _ => rfl

theorem stays_tick (s : Doc.State U) (i : Nat) : Stays s (Doc.flushDirty s i) := by
  unfold Doc.flushDirty
  split
  · split
    · exact .congr rfl fun _ => rfl
    · exact .congr rfl fun _ => rfl
  · exact .congr rfl fun _ => rfl

theorem stays_resume {s s' : Doc.State U} {i : Nat} {t : Doc.Task U} (h : Doc.resume s i t = some s') :
    Stays s s' := by
  cases t with
  | retain e =>
    simp only [Doc.resume] at h
    split at h
    · cases h
    · rw [Option.some.injEq] at h
      subst h
      split
      · next x hx => exact .congr rfl (Slots.isSome_put _ hx)
      · exact .congr rfl fun _ => rfl
  | put caller e revision body =>
    cases h
    exact .congr rfl fun _ => rfl
  | flushed caller e revision stored =>
    obtain ⟨x, hx, rfl⟩ := Option.map_eq_some_iff.1 h
    cases stored with
    | false => cases caller <;> exact .congr rfl fun _ => rfl
    | true =>
      cases caller with
      | release => exact stays_loop hx
      | timer =>
        dsimp only
        split
        · exact .forgotten rfl
        · exact .congr rfl (Slots.isSome_put _ hx)

theorem stays_load (s : Doc.State U) : Stays s (Doc.advance s) := by
  unfold Doc.advance
  split
  · exact .congr rfl fun _ => rfl
  · next e snapshot _ =>
    -- a new entry has no clients
    refine .inr (.inr ?_)
    unfold clients State.registered
    simp only [Option.bind_some, State.setEntry, Slots.put_self, Option.map_some]
    rfl
  · exact .congr rfl fun _ => rfl
  · exact .congr rfl fun _ => rfl

theorem stays_step [DecidableEq U] {d d' : Docs U} {e : Flow} (h : step d e = some d') : Stays d.core d'.core := by
  cases e with
  | load =>
    obtain ⟨core, hcore, rfl⟩ := Option.map_eq_some_iff.1 h
    obtain ⟨l, -, rfl⟩ := Option.map_eq_some_iff.1 hcore
    exact stays_load d.core
  | loadFails =>
    obtain ⟨core, hcore, rfl⟩ := Option.map_eq_some_iff.1 h
    unfold Doc.step at hcore
    dsimp only at hcore
    split at hcore
    · cases hcore
      exact .congr rfl fun _ => rfl
    · cases hcore
  | resume i =>
    unfold step at h
    dsimp only at h
    split at h
    · obtain ⟨core, hcore, rfl⟩ := Option.map_eq_some_iff.1 h
      obtain ⟨t, -, hcore⟩ := Option.bind_eq_some_iff.1 hcore
      exact stays_resume hcore
    · cases h
  | putFails i stored =>
    obtain ⟨core, hcore, rfl⟩ := Option.map_eq_some_iff.1 h
    unfold Doc.step at hcore
    dsimp only at hcore
    split at hcore
    · cases hcore
      exact .congr rfl fun _ => rfl
    · cases hcore

theorem stays_enter {d : Docs U} {i : Nat} {p : Docs U × Bool} (h : enter d i = some p) : Stays d.core p.1.core := by
  unfold enter at h
  split at h
  · obtain ⟨core, hcore, rfl⟩ := Option.map_eq_some_iff.1 h
    exact stays_resume hcore
  · cases h

/-- The board gateway accepts what its service merges, and an entry with clients stays registered. -/
theorem steady [DecidableEq U] (snapshot : Option (Finset U)) : Steady (serving snapshot) where
  registered d := by
    show (d.core.registered.map _).isSome = (d.core.registered.map _).isSome
    rw [Option.isSome_map, Option.isSome_map]
  agrees d u h := by
    show true = (entry d.core).isSome
    exact h.symm
  moves d d' h := by
    cases h with
    | retain i => exact stays_retain d.core i
    | enter h => exact stays_enter h
    | release i => exact stays_release _ i
    | update u => exact stays_update d.core u
    | tick i => exact stays_tick d.core i
    | step h => exact stays_step h

end Livetich.Board.References

/-! ## The code editor -/

namespace Livetich.Code.References

open TransSys Livetich.Sockets Livetich.Sockets.Viewers DocService

variable {E : Type}

/-- The number of the registered entry. -/
def entry (s : DocService.State E) : Option Nat := s.registered.map (·.1)

section

variable [DecidableEq E] (y : Yjs E)

/-- `applyUpdate` returns true for the update, or for the one a seed makes. -/
def accepted (s : DocService.State E) : Change E → Bool
  | .update u => accepts y s u
  | .seed path content edit => (seedOf y s path content edit).any (accepts y s)

/-- `onUpdate` and `onEdit` relay what `applyUpdate` has accepted, a seed to its sender as well. -/
def serving (snapshot : Option (Doc E)) : Serving (service y snapshot) where
  entry s := entry s
  applies s u := accepted y s u
  relays s u := accepted y s u
  echoes
    | .update _ => false
    | .seed .. => true
  replays := false

end

theorem entry_congr {s s' : DocService.State E} (hdocs : s'.docs = s.docs)
    (hheap : ∀ e, (s'.heap e).isSome = (s.heap e).isSome) : entry s' = entry s := by
  unfold entry State.registered
  rw [hdocs]
  exact Slots.name_congr hheap _

/-- The entry stays, or the map holds none, or one without clients. -/
def Stays (s s' : DocService.State E) : Prop :=
  entry s' = entry s ∨ clients s' = none ∨ clients s' = some 0

theorem Stays.congr {s s' : DocService.State E} (hdocs : s'.docs = s.docs)
    (hheap : ∀ e, (s'.heap e).isSome = (s.heap e).isSome) : Stays s s' :=
  .inl (entry_congr hdocs hheap)

theorem stays_retain (s : DocService.State E) (i : Nat) : Stays s (DocService.retain s i) := by
  unfold DocService.retain
  split
  · next e x hreg =>
    obtain ⟨-, hx⟩ := State.registered_eq_some.1 hreg
    exact .congr rfl (Slots.isSome_put _ hx)
  · split
    · exact .congr rfl fun _ => rfl
    · exact .congr rfl fun _ => rfl

theorem stays_tick (s : DocService.State E) (i : Nat) : Stays s (DocService.flushDirty s i) := by
  unfold DocService.flushDirty
  split
  · split
    · exact .congr rfl fun _ => rfl
    · exact .congr rfl fun _ => rfl
  · exact .congr rfl fun _ => rfl

theorem stays_resume {s s' : DocService.State E} {i : Nat} {t : DocService.Task E}
    (h : DocService.resume s i t = some s') : Stays s s' := by
  cases t with
  | retain e =>
    simp only [DocService.resume] at h
    split at h
    · cases h
    · rw [Option.some.injEq] at h
      subst h
      split
      · next x hx => exact .congr rfl (Slots.isSome_put _ hx)
      · exact .congr rfl fun _ => rfl
  | put caller e body =>
    cases h
    exact .congr rfl fun _ => rfl
  | flushed caller e stored =>
    cases caller with
    | release =>
      obtain ⟨x, hx, rfl⟩ := Option.map_eq_some_iff.1 h
      exact .inr (.inl rfl)
    | timer =>
      obtain ⟨x, hx, rfl⟩ := Option.map_eq_some_iff.1 h
      exact .congr rfl (Slots.isSome_put _ hx)

variable [DecidableEq E] (y : Yjs E)

theorem stays_release (s : DocService.State E) (i : Nat) : Stays s (DocService.release y s i) := by
  unfold DocService.release
  split
  · next e x hreg =>
    obtain ⟨-, hx⟩ := State.registered_eq_some.1 hreg
    dsimp only
    split
    · exact .congr rfl (Slots.isSome_put _ hx)
    · exact .congr rfl (Slots.isSome_put _ hx)
  · exact .congr rfl fun _ => rfl

theorem stays_apply (s : DocService.State E) (u : Update E) : Stays s (DocService.applyUpdate y s u) := by
  unfold DocService.applyUpdate
  split
  · next e x hreg =>
    obtain ⟨-, hx⟩ := State.registered_eq_some.1 hreg
    split
    · exact .congr rfl (Slots.isSome_put _ hx)
    · exact .congr rfl fun _ => rfl
  · exact .congr rfl fun _ => rfl

theorem stays_update (s : DocService.State E) (u : Change E) : Stays s (update y s u) := by
  cases u with
  | update u => exact stays_apply y s u
  | seed path content edit =>
    show Stays s (DocService.seedFileContent y s path content edit)
    unfold DocService.seedFileContent
    split
    · exact stays_apply y s _
    · exact .congr rfl fun _ => rfl

theorem stays_load (s : DocService.State E) : Stays s (DocService.advance y s) := by
  unfold DocService.advance
  split
  · exact .congr rfl fun _ => rfl
  · next e snapshot _ =>
    -- a new entry has no clients
    refine .inr (.inr ?_)
    unfold clients State.registered
    simp only [Option.bind_some, State.setEntry, Slots.put_self, Option.map_some]
  · exact .congr rfl fun _ => rfl
  · exact .congr rfl fun _ => rfl

theorem stays_step {s s' : DocService.State E} {e : Flow} (h : step y s e = some s') : Stays s s' := by
  cases e with
  | load =>
    obtain ⟨l, -, rfl⟩ := Option.map_eq_some_iff.1 h
    exact stays_load y s
  | loadFails =>
    unfold step DocService.step at h
    dsimp only at h
    split at h
    · cases h
      exact .congr rfl fun _ => rfl
    · cases h
  | resume i =>
    unfold step DocService.step at h
    dsimp only at h
    split at h
    · obtain ⟨t, -, h⟩ := Option.bind_eq_some_iff.1 h
      exact stays_resume h
    · cases h
  | putFails i stored =>
    unfold step DocService.step at h
    dsimp only at h
    split at h
    · cases h
      exact .congr rfl fun _ => rfl
    · cases h

omit [DecidableEq E] in
theorem stays_enter {s : DocService.State E} {i : Nat} {p : DocService.State E × Bool} (h : enter s i = some p) :
    Stays s p.1 := by
  unfold enter at h
  split at h
  · obtain ⟨s', hs', rfl⟩ := Option.map_eq_some_iff.1 h
    exact stays_resume hs'
  · cases h

/-- The code gateway relays what its service merges, and an entry with clients stays registered. -/
theorem steady (snapshot : Option (Doc E)) : Steady (serving y snapshot) where
  registered s := by
    show (s.registered.map _).isSome = (s.registered.map _).isSome
    rw [Option.isSome_map, Option.isSome_map]
  agrees _ _ _ := rfl
  moves s s' h := by
    cases h with
    | retain i => exact stays_retain s i
    | enter h => exact stays_enter h
    | release i => exact stays_release y _ i
    | update u => exact stays_update y s u
    | tick i => exact stays_tick s i
    | step h => exact stays_step y h

end Livetich.Code.References

/-! ## Both gateways -/

namespace Livetich.Sockets.Viewers

open TransSys
open Livetich.Sockets.Documents (docsOf)

section

variable {U E : Type} [DecidableEq U] [DecidableEq E]

def servingOf (y : Code.Yjs E) (board : Option (Finset U)) (code : Option (Code.Doc E)) :
    (g : Documents.Gateway) → Serving (docsOf y board code g)
  | .board => Board.References.serving board
  | .code => Code.References.serving y code

/-- In every run in which the service takes no entry away from anyone and no socket leaves the room under a join of its
own, each socket that has joined has exactly the registered document once its packets have arrived. -/
theorem all_converge (y : Code.Yjs E) (board : Option (Finset U)) (code : Option (Code.Doc E)) (g : Documents.Gateway)
    {es : List (Event (docsOf y board code g))} {s : State (docsOf y board code g)}
    (hok : Meets (step (servingOf y board code g)) (fun s e => servedOn s e = true) (init _) es)
    (h : TransSys.run (step (servingOf y board code g)) (init _) es = some s) :
    Converged (servingOf y board code g) s := by
  cases g with
  | board => exact viewers_converge (Board.References.sound board) (Board.References.steady board) hok h
  | code => exact viewers_converge (Code.References.sound y code) (Code.References.steady y code) hok h

end

/-! ### Flushes that end late, and a leave under a join -/

namespace Example

/-- Documents that are empty at the start. -/
abbrev docs (g : Documents.Gateway) : Documents.Service := docsOf (U := Nat) Code.DocService.Example.letters none none g

def serving (g : Documents.Gateway) : Serving (docs g) :=
  servingOf (U := Nat) Code.DocService.Example.letters none none g

variable (g : Documents.Gateway)

/-- Socket `c` joins by task `i` and finds a document. -/
def joins (i c : Nat) : List (Event (docs g)) :=
  [.act (.connect c), .act (.join i c), .act (.resume i true), .act (.resume i true), .enter i,
    .act (.resume i true), .deliver c]

/-- Socket `c` joins by task `i`, and the document is loaded. -/
def loads (i c : Nat) (load : (docs g).Event) : List (Event (docs g)) :=
  [.act (.connect c), .act (.join i c), .act (.resume i true), .act (.resume i true), .act (.service load),
    .act (.service load), .act (.service load), .act (.resume i true), .enter i, .act (.resume i true), .deliver c]

/-- Socket `c` leaves by task `i`. -/
def leaves (i c : Nat) : List (Event (docs g)) := [.act (.leave i c), .act (.resume i true)]

/-- A put lands, and its flush goes on. -/
def flushes (flush : (docs g).Event) : List (Event (docs g)) := [.act (.service flush), .act (.service flush)]

def sends (c : Nat) (u : (docs g).Update) : List (Event (docs g)) := [.act (.update c u)]

/-- One draws, and another who joins late draws as well. -/
def drawing : List (Event (docs .board)) :=
  loads .board 0 0 Board.References.Flow.load ++ sends .board 0 (7 : Nat) ++ joins .board 1 1 ++
    sends .board 1 (8 : Nat) ++ [.deliver 0]

/-- Two leave one after the other, and the flush of the second ends when a third has joined, who draws; a fourth
joins. -/
def flushedTwice : List (Event (docs .board)) :=
  loads .board 0 0 Board.References.Flow.load ++ sends .board 0 (7 : Nat) ++ leaves .board 1 0 ++ joins .board 2 1 ++
    leaves .board 3 1 ++ flushes .board (Board.References.Flow.resume 1) ++
    loads .board 4 2 Board.References.Flow.load ++ flushes .board (Board.References.Flow.resume 3) ++
    sends .board 2 (8 : Nat) ++ loads .board 5 3 Board.References.Flow.load

/-- One who asks to join twice leaves when only the first join has been marked; another joins and draws. -/
def leftBetween : List (Event (docs .board)) :=
  [.act (.connect 0), .act (.join 0 0), .act (.join 1 0), .act (.resume 0 true), .act (.resume 1 true),
    .act (.resume 0 true), .act (.resume 1 true)] ++ List.replicate 3 (.act (.service Board.References.Flow.load)) ++
    [.act (.resume 0 true), .act (.resume 1 true), .enter 0, .act (.resume 0 true), .enter 1] ++ leaves .board 2 0 ++
    [.act (.resume 1 true), .deliver 0, .deliver 0] ++ joins .board 3 1 ++ sends .board 1 (8 : Nat)

/-- One joins and types while the last flush is under way; another joins after it. -/
def typedMeanwhile : List (Event (docs .code)) :=
  loads .code 0 0 Code.References.Flow.load ++ leaves .code 1 0 ++ joins .code 2 1 ++
    sends .code 1 (Code.References.Change.update (E := Nat) ⟨none, none, [("main.ts", {1})], []⟩) ++
    flushes .code (Code.References.Flow.resume 1) ++ loads .code 3 2 Code.References.Flow.load

variable {g}

/-- What a socket that has joined has when nothing is on its way to it. -/
def has (s : State (docs g)) (c : Nat) : Option (Option Content) :=
  ((s.base.sockets.get c).filter fun k => k.active && (s.viewers c).queue.isEmpty).map fun _ =>
    (s.viewers c).view.map (· ∪ (s.viewers c).own)

/-- The updates of the board's registered document. -/
def drawn (s : State (docs .board)) : Option (Finset Nat) :=
  (s.base.docs : Board.References.Docs Nat).core.registered.map (·.2.doc)

theorem has_converged {s : State (docs g)} {c : Nat} {view : Option Content} (h : Converged (serving g) s)
    (hc : has s c = some view) : view = s.contents (serving g) := by
  obtain ⟨k, hk, rfl⟩ := Option.map_eq_some_iff.1 hc
  obtain ⟨hk, hready⟩ := Option.filter_eq_some_iff.1 hk
  rw [Bool.and_eq_true, List.isEmpty_iff] at hready
  obtain ⟨content, view, hcontent, hview, hall⟩ := h c k hk hready.1 hready.2
  rw [hcontent, hview, Option.map_some, hall]

/-- Two that have joined and do not have the same. -/
theorem not_converged {s : State (docs g)} {c d : Nat} {view other : Option Content} (hc : has s c = some view)
    (hd : has s d = some other) (hne : view ≠ other) : ¬Converged (serving g) s :=
  fun h => hne ((has_converged h hc).trans (has_converged h hd).symm)

end Example

open Example in
theorem drawing_converges : ∃ s, TransSys.run (step (serving .board)) (init (docs .board)) drawing = some s ∧
    Converged (serving .board) s ∧ has s 0 = some (some {.loaded 0, .update 0, .update 1}) ∧ has s 1 = has s 0 := by
  have hrun : (TransSys.run (step (serving .board)) (init (docs .board)) drawing).map (fun s => (has s 0, has s 1)) =
      some (some (some {.loaded 0, .update 0, .update 1}), some (some {.loaded 0, .update 0, .update 1})) := by
    decide
  obtain ⟨s, hs, hseen⟩ := Option.map_eq_some_iff.1 hrun
  rw [Prod.mk.injEq] at hseen
  exact ⟨s, hs, all_converge (U := Nat) Code.DocService.Example.letters none none .board (by decide) hs,
    hseen.1, hseen.2.trans hseen.1.symm⟩

open Example in
/-- The entry of a socket that has joined is deleted, and what it draws or typed is not in the document the next one
finds; and a socket that has joined is not in the room, and misses what is drawn. -/
theorem viewers_apart :
    (∃ s, TransSys.run (step (serving .board)) (init (docs .board)) flushedTwice = some s ∧
      has s 2 = some (some {.loaded 1, .update 1}) ∧ has s 3 = some (some {.loaded 2}) ∧ drawn s = some {7} ∧
      ¬Converged (serving .board) s) ∧
    (∃ s, TransSys.run (step (serving .board)) (init (docs .board)) leftBetween = some s ∧
      has s 0 = some (some {.loaded 0}) ∧ has s 1 = some (some {.loaded 0, .update 0}) ∧
      ¬Converged (serving .board) s) ∧
    ∃ s, TransSys.run (step (serving .code)) (init (docs .code)) typedMeanwhile = some s ∧
      has s 1 = some (some {.loaded 0, .update 0}) ∧ has s 2 = some (some {.loaded 1}) ∧
      ¬Converged (serving .code) s := by
  refine ⟨?_, ?_, ?_⟩
  · have hrun : (TransSys.run (step (serving .board)) (init (docs .board)) flushedTwice).map
        (fun s => (has s 2, has s 3, drawn s)) =
          some (some (some {.loaded 1, .update 1}), some (some {.loaded 2}), some {7}) := by
      decide
    obtain ⟨s, hs, hseen⟩ := Option.map_eq_some_iff.1 hrun
    simp only [Prod.mk.injEq] at hseen
    obtain ⟨hthird, hfourth, hdrawn⟩ := hseen
    exact ⟨s, hs, hthird, hfourth, hdrawn, not_converged hthird hfourth (by decide)⟩
  · have hrun : (TransSys.run (step (serving .board)) (init (docs .board)) leftBetween).map
        (fun s => (has s 0, has s 1)) = some (some (some {.loaded 0}), some (some {.loaded 0, .update 0})) := by
      decide
    obtain ⟨s, hs, hseen⟩ := Option.map_eq_some_iff.1 hrun
    rw [Prod.mk.injEq] at hseen
    exact ⟨s, hs, hseen.1, hseen.2, not_converged hseen.1 hseen.2 (by decide)⟩
  · have hrun : (TransSys.run (step (serving .code)) (init (docs .code)) typedMeanwhile).map
        (fun s => (has s 1, has s 2)) = some (some (some {.loaded 0, .update 0}), some (some {.loaded 1})) := by
      decide
    obtain ⟨s, hs, hseen⟩ := Option.map_eq_some_iff.1 hrun
    rw [Prod.mk.injEq] at hseen
    exact ⟨s, hs, hseen.1, hseen.2, not_converged hseen.1 hseen.2 (by decide)⟩

end Livetich.Sockets.Viewers
