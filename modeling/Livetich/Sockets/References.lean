/-
The documents of the board and of the code gateway are held by the sockets that have joined: the counter of the
registered entry against the connected sockets whose `sessionIds` has the session.
-/
import Livetich.Board.References
import Livetich.Code.References
import Livetich.Code.Durability

namespace Livetich.Sockets.Documents

open TransSys

variable {U E : Type} [DecidableEq U] [DecidableEq E]

/-- The gateways that keep a document for each session. -/
inductive Gateway
  | board
  | code

/-- The documents of a gateway, over what a session's object holds at the start. -/
def docsOf (y : Code.Yjs E) (board : Option (Finset U)) (code : Option (Code.Doc E)) : Gateway → Service
  | .board => Board.References.service U board
  | .code => Code.References.service y code

/-- In a run that counts each socket in once, loses none while it is counted in, and deletes only entries nobody holds,
the counter matches the sockets whenever no handler is in flight. -/
theorem references_match (y : Code.Yjs E) (board : Option (Finset U)) (code : Option (Code.Doc E)) (g : Gateway)
    (es : List (Event (docsOf y board code g))) (s : State (docsOf y board code g))
    (hok : Meets step (fun s e => countsKept s e = true) (init (docsOf y board code g)) es)
    (h : TransSys.run step (init (docsOf y board code g)) es = some s) :
    Matches s ∧ ∀ e s', countsKept s e = true → step s e = some s' → ReportsTrue s s' := by
  cases g with
  | board => exact counts_match (Board.References.sound board) hok h
  | code => exact counts_match (Code.References.sound y code) hok h

namespace Example

/-- Documents that are empty at the start. -/
def docs (g : Gateway) : Service := docsOf (U := Nat) Code.DocService.Example.letters none none g

/-- The first socket joins: the document is loaded. -/
def first (g : Gateway) (load : (docs g).Event) : List (Event (docs g)) :=
  [.connect 0, .join 0 0, .resume 0 true, .resume 0 true, .service load, .service load, .service load,
    .resume 0 true, .resume 0 true]

/-- A second socket joins, and the first one leaves. -/
def change (g : Gateway) (load : (docs g).Event) : List (Event (docs g)) :=
  first g load ++ [.connect 1, .join 1 1, .resume 1 true, .resume 1 true, .resume 1 true, .leave 0 0, .resume 0 true]

/-- A socket asks to join a second time before it has joined. -/
def retried (g : Gateway) : List (Event (docs g)) :=
  [.connect 1, .join 1 1, .resume 1 true, .join 2 1, .resume 2 true, .resume 1 true, .resume 2 true, .resume 1 true,
    .resume 2 true]

/-- The last socket leaves, and one joins while its flush is under way. -/
def rejoined : List (Event (docs .code)) :=
  first .code Code.References.Flow.load ++ [.leave 0 0, .resume 0 true, .connect 1, .join 1 1, .resume 1 true,
    .resume 1 true, .resume 1 true, .service (Code.References.Flow.resume 0), .service (Code.References.Flow.resume 0)]

/-- No handler is in flight, the counter, and the sockets that have joined. -/
def seen {g : Gateway} (s : State (docs g)) : Bool × Option Int × Nat :=
  (s.tasks.entries.isEmpty && !(docs g).calls s.docs, (docs g).clients s.docs, joined s)

theorem seen_eq {g : Gateway} {s : State (docs g)} {clients : Option Int} {n : Nat} (h : seen s = (true, clients, n)) :
    AtRest s ∧ (docs g).clients s.docs = clients ∧ joined s = n := by
  simp only [seen, Prod.mk.injEq, Bool.and_eq_true, Bool.not_eq_true', List.isEmpty_iff] at h
  exact h

end Example

open Example in
theorem change_counted :
    (TransSys.run step (init (docs .board)) (change .board Board.References.Flow.load)).map seen =
        some (true, some 1, 1) ∧
    ∀ s, TransSys.run step (init (docs .board)) (change .board Board.References.Flow.load) = some s →
      Matches s ∧ ∀ e s', countsKept s e = true → step s e = some s' → ReportsTrue s s' := by
  have hok : Meets step (fun s e => countsKept s e = true) (init (docs .board))
      (change .board Board.References.Flow.load) := by decide
  refine ⟨by decide, fun s h => ?_⟩
  exact references_match (U := Nat) Code.DocService.Example.letters none none .board _ s hok h

open Example in
theorem retried_and_rejoined :
    (¬ ∀ (es : List (Event (docs .board))) (s : State (docs .board)),
      TransSys.run step (init (docs .board)) es = some s → Matches s) ∧
    ¬ ∀ (es : List (Event (docs .code))) (s : State (docs .code)),
      TransSys.run step (init (docs .code)) es = some s → Matches s := by
  constructor
  · intro h
    have hrun : (TransSys.run step (init (docs .board))
        (first .board Board.References.Flow.load ++ retried .board)).map seen = some (true, some 3, 2) := by
      decide
    obtain ⟨s, hs, heq⟩ := Option.map_eq_some_iff.1 hrun
    obtain ⟨hrest, hclients, hjoined⟩ := seen_eq heq
    have := (h _ s hs).counted hrest 3 hclients
    rw [hjoined] at this
    cases this
  · intro h
    have hrun : (TransSys.run step (init (docs .code)) rejoined).map seen = some (true, none, 1) := by decide
    obtain ⟨s, hs, heq⟩ := Option.map_eq_some_iff.1 hrun
    obtain ⟨-, hclients, hjoined⟩ := seen_eq heq
    exact ((h _ s hs).alive (by rw [hjoined]; exact Nat.zero_lt_one)).1 hclients

end Livetich.Sockets.Documents
