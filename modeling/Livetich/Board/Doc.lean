/-
The board document of one session: `BoardDocService.retain`, `release`, `applyUpdate`, `load`,
`flush` and `flushDirty` as steps between awaits, over the session's entry of the `boards` and
`loading` maps and its object in the store. A document is the set of updates merged into it.

An entry lives on after the map forgets it, as long as a retain or a flush still holds it, so
entries are kept by number in a heap and the map names the one registered. A put takes effect
when it lands, and its caller goes on in a later step; a rejected put may have been stored.
-/
import Mathlib.Data.Finset.Basic
import Livetich.Lib.TransSys

namespace Livetich.Board.Doc

open TransSys

variable {U : Type}

/-! ## Data -/

structure BoardEntry (U : Type) where
  doc : Finset U
  dirty : Bool
  clients : Nat
  revision : Nat
  deriving DecidableEq

/-- The entry after a flush that took its copy at `revision` has been stored. -/
def BoardEntry.saved (x : BoardEntry U) (revision : Nat) : BoardEntry U :=
  if x.revision = revision then { x with dirty := false } else x

@[simp] theorem BoardEntry.saved_doc (x : BoardEntry U) (revision : Nat) :
    (x.saved revision).doc = x.doc := by
  unfold BoardEntry.saved; split <;> rfl

@[simp] theorem BoardEntry.saved_revision (x : BoardEntry U) (revision : Nat) :
    (x.saved revision).revision = x.revision := by
  unfold BoardEntry.saved; split <;> rfl

theorem BoardEntry.saved_dirty {x : BoardEntry U} {revision : Nat}
    (h : (x.saved revision).dirty = false) : x.dirty = false ∨ revision = x.revision := by
  unfold BoardEntry.saved at h
  split at h
  · rename_i hr; exact .inr hr.symm
  · exact .inl h

/-- How far the pending load has come. -/
inductive Load (U : Type)
  /-- `storage.get` is under way. -/
  | reading
  | read (snapshot : Option (Finset U))
  /-- The promise is settled; `finally` has yet to drop it from `loading`. -/
  | settled

/-- Who awaits a flush. -/
inductive Flusher
  | release
  | timer
  deriving DecidableEq

/-- A call in flight, by what it waits for. -/
inductive Task (U : Type)
  | retain (entry : Nat)
  | put (caller : Flusher) (entry revision : Nat) (body : Finset U)
  /-- The put has settled; `flush` has yet to go on. -/
  | flushed (caller : Flusher) (entry revision : Nat) (stored : Bool)
  deriving DecidableEq

structure State (U : Type) where
  /-- The object `boards/<id>.bin`. -/
  snapshot : Option (Finset U)
  heap : Slots (BoardEntry U)
  nextEntry : Nat
  /-- The entry the `boards` map holds for the session. -/
  boards : Option Nat
  /-- The pending load, with the number its entry will have. -/
  loading : Option (Nat × Load U)
  tasks : Pool (Task U)
  /-- What each finished `release` returned. -/
  returned : List (Nat × Bool)
  /-- Completed retains no release has been called for. -/
  held : Nat
  /-- The updates `applyUpdate` returned true for. -/
  accepted : Finset U

/-- A fresh process over a store. -/
def init (snapshot : Option (Finset U)) : State U where
  snapshot := snapshot
  heap := fun _ => none
  nextEntry := 0
  boards := none
  loading := none
  tasks := Pool.empty
  returned := []
  held := 0
  accepted := ∅

/-! ## Steps -/

namespace State

/-- The entry the `boards` map holds, with its number. -/
def registered (s : State U) : Option (Nat × BoardEntry U) :=
  s.boards.bind fun e => (s.heap e).map (e, ·)

theorem registered_eq_some {s : State U} {e : Nat} {x : BoardEntry U} :
    s.registered = some (e, x) ↔ s.boards = some e ∧ s.heap e = some x := by
  unfold registered
  rw [Option.bind_eq_some_iff]
  constructor
  · rintro ⟨e', hb, hx⟩
    obtain ⟨x', hx', heq⟩ := Option.map_eq_some_iff.1 hx
    cases heq
    exact ⟨hb, hx'⟩
  · rintro ⟨hb, hx⟩
    exact ⟨e, hb, by rw [hx]; rfl⟩

/-- Task `i` goes on as `t`, or ends. -/
def goto (s : State U) (i : Nat) (t : Option (Task U)) : State U :=
  { s with tasks := s.tasks.put i t }

def setEntry (s : State U) (e : Nat) (x : BoardEntry U) : State U :=
  { s with heap := s.heap.put e (some x) }

/-- `release` of task `i` ends with a result. -/
def return_ (s : State U) (i : Nat) (result : Bool) : State U :=
  { s.goto i none with returned := s.returned ++ [(i, result)] }

/-- The rest of `retain` once it has its entry. -/
def countIn (s : State U) (e : Nat) (x : BoardEntry U) : State U :=
  { s.setEntry e { x with clients := x.clients + 1 } with held := s.held + 1 }

/-- The flush loop of `release`, with what follows it: the entry is deleted by key. -/
def releaseLoop (s : State U) (i e : Nat) (x : BoardEntry U) : State U :=
  if x.dirty ∧ x.clients = 0 then s.goto i (some (.put .release e x.revision x.doc))
  else if x.clients > 0 then s.return_ i false
  else { s with boards := none }.return_ i true

end State

def retain (s : State U) (i : Nat) : State U :=
  match s.registered with
  | some (e, x) => s.countIn e x
  | none => match s.loading with
    | some (e, _) => s.goto i (some (.retain e))
    | none =>
      { s with
        loading := some (s.nextEntry, .reading)
        nextEntry := s.nextEntry + 1 }.goto i (some (.retain s.nextEntry))

def release (s : State U) (i : Nat) : State U :=
  match s.registered with
  | some (e, x) =>
    let x := { x with clients := x.clients - 1 }
    let s := s.setEntry e x
    if x.clients > 0 then s.return_ i false else s.releaseLoop i e x
  | none => s.return_ i false

def applyUpdate [DecidableEq U] (s : State U) (u : U) : State U :=
  match s.registered with
  | some (e, x) =>
    { s.setEntry e
        { x with doc := insert u x.doc, dirty := true, revision := x.revision + 1 } with
      accepted := insert u s.accepted }
  | none => s

/-- `flushDirty` reaches the session. -/
def flushDirty (s : State U) (i : Nat) : State U :=
  match s.registered with
  | some (e, x) => if x.dirty then s.goto i (some (.put .timer e x.revision x.doc)) else s
  | none => s

/-- The next step of the pending load. -/
def advance (s : State U) : State U :=
  match s.loading with
  | some (e, .reading) => { s with loading := some (e, .read s.snapshot) }
  | some (e, .read snapshot) =>
    { s.setEntry e ⟨snapshot.getD ∅, false, 0, 0⟩ with
      boards := some e
      loading := some (e, .settled) }
  | some (_, .settled) => { s with loading := none }
  | none => s

/-- The next step of task `t`, numbered `i`; `none` while what it waits for is pending. -/
def resume (s : State U) (i : Nat) : Task U → Option (State U)
  | .retain e =>
    if s.loading.any (·.1 == e) then none
    else some <| match s.heap e with
      | some x => (s.countIn e x).goto i none
      | none => s.goto i none
  | .put caller e revision body =>
    some ({ s with snapshot := some body }.goto i (some (.flushed caller e revision true)))
  | .flushed caller e revision stored =>
    (s.heap e).map fun x =>
      match stored, caller with
      | true, .release =>
        (s.setEntry e (x.saved revision)).releaseLoop i e (x.saved revision)
      | false, .release => s.return_ i true
      | true, .timer =>
        let x := x.saved revision
        let s := (s.setEntry e x).goto i none
        if ¬x.dirty ∧ x.clients = 0 ∧ s.boards = some e then { s with boards := none } else s
      | false, .timer => s.goto i none

inductive Event (U : Type)
  | retain (i : Nat)
  | release (i : Nat)
  | applyUpdate (u : U)
  /-- The flush timer reaches the session. -/
  | tick (i : Nat)
  | load
  /-- `storage.get` of the pending load is rejected. -/
  | loadFails
  /-- What task `i` waits for has happened, and the task goes on; a put lands. -/
  | resume (i : Nat)
  /-- The put of task `i` is rejected, having been stored or not. -/
  | putFails (i : Nat) (stored : Bool)
  deriving DecidableEq

def step [DecidableEq U] (s : State U) : Event U → Option (State U)
  | .retain i => if s.tasks.get i = none then some (retain s i) else none
  | .release i => if s.tasks.get i = none ∧ 0 < s.held then
      some (release { s with held := s.held - 1 } i) else none
  | .applyUpdate u => some (applyUpdate s u)
  | .tick i => if s.tasks.get i = none then some (flushDirty s i) else none
  | .load => s.loading.map fun _ => advance s
  | .loadFails => match s.loading with
    | some (e, .reading) => some { s with loading := some (e, .settled) }
    | _ => none
  | .resume i => (s.tasks.get i).bind (resume s i)
  | .putFails i stored => match s.tasks.get i with
    | some (.put caller e revision body) =>
      some ({ s with snapshot := if stored then some body else s.snapshot }.goto i
        (some (.flushed caller e revision false)))
    | _ => none

end Livetich.Board.Doc
