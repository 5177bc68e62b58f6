/-
The code document of one session: `CodeDocService.retain`, `release`, `applyUpdate`,
`seedFileContent`, `load`, `flush` and `flushDirty` as steps between awaits, over the session's
entry of the `docsBySession` and `loading` maps and its object in the store.

Entries are kept by number in a heap, since a retain or a flush can hold one the map has forgotten.
A put takes effect when it lands, and its caller goes on in a later step; a rejected put may have
been stored.
-/
import Livetich.Lib.TransSys
import Livetich.Code.Doc

namespace Livetich.Code.DocService

open TransSys

variable {E : Type} [DecidableEq E]

/-! ## Data -/

structure CodeEntry (E : Type) where
  doc : Doc E
  dirty : Bool
  clients : Int
  /-- `doc.destroy()` has been called on its document. -/
  destroyed : Bool
  deriving DecidableEq

/-- How far the pending load has come. -/
inductive Load (E : Type)
  /-- `storage.get` is under way. -/
  | reading
  | read (snapshot : Option (Doc E))
  /-- The promise is settled; `finally` has yet to drop it from `loading`. -/
  | settled

/-- Who awaits a flush. -/
inductive Flusher
  | release
  | timer
  deriving DecidableEq

/-- A call in flight, by what it waits for. -/
inductive Task (E : Type)
  | retain (entry : Nat)
  | put (caller : Flusher) (entry : Nat) (body : Doc E)
  /-- The put has settled; `flush` has yet to go on. -/
  | flushed (caller : Flusher) (entry : Nat) (stored : Bool)

structure State (E : Type) where
  /-- The object `codeboards/<id>.bin`. -/
  snapshot : Option (Doc E)
  heap : Slots (CodeEntry E)
  nextEntry : Nat
  /-- The entry the `docsBySession` map holds for the session. -/
  docs : Option Nat
  /-- The pending load, with the number its entry will have. -/
  loading : Option (Nat × Load E)
  tasks : Pool (Task E)
  /-- Completed retains no release has been called for. -/
  held : Nat
  /-- The text edits of files in updates `applyUpdate` returned true for. -/
  accepted : Finset (String × E)

/-- A fresh process over a store. -/
def init (snapshot : Option (Doc E)) : State E where
  snapshot := snapshot
  heap := fun _ => none
  nextEntry := 0
  docs := none
  loading := none
  tasks := Pool.empty
  held := 0
  accepted := ∅

/-! ## Steps -/

namespace State

omit [DecidableEq E]

/-- The entry the map holds, with its number. -/
def registered (s : State E) : Option (Nat × CodeEntry E) :=
  s.docs.bind fun e => (s.heap e).map (e, ·)

theorem registered_eq_some {s : State E} {e : Nat} {x : CodeEntry E} :
    s.registered = some (e, x) ↔ s.docs = some e ∧ s.heap e = some x := by
  unfold registered
  rw [Option.bind_eq_some_iff]
  constructor
  · rintro ⟨e', hb, hx⟩
    obtain ⟨x', hx', heq⟩ := Option.map_eq_some_iff.1 hx
    cases heq
    exact ⟨hb, hx'⟩
  · rintro ⟨hb, hx⟩
    exact ⟨e, hb, by rw [hx]; rfl⟩

/-- Task `i` goes on as `t`, or ends. -/
def goto (s : State E) (i : Nat) (t : Option (Task E)) : State E :=
  { s with tasks := s.tasks.put i t }

def setEntry (s : State E) (e : Nat) (x : CodeEntry E) : State E :=
  { s with heap := s.heap.put e (some x) }

/-- The rest of `retain` once it has its entry. -/
def countIn (s : State E) (e : Nat) (x : CodeEntry E) : State E :=
  { s.setEntry e { x with clients := x.clients + 1 } with held := s.held + 1 }

end State

section

omit [DecidableEq E]

def retain (s : State E) (i : Nat) : State E :=
  match s.registered with
  | some (e, x) => s.countIn e x
  | none => match s.loading with
    | some (e, _) => s.goto i (some (.retain e))
    | none =>
      { s with
        loading := some (s.nextEntry, .reading)
        nextEntry := s.nextEntry + 1 }.goto i (some (.retain s.nextEntry))

/-- `flushDirty` reaches the session. -/
def flushDirty (s : State E) (i : Nat) : State E :=
  match s.registered with
  | some (e, x) => if x.dirty then s.goto i (some (.put .timer e x.doc)) else s
  | none => s

end

variable (y : Yjs E)

def release (s : State E) (i : Nat) : State E :=
  match s.registered with
  | some (e, x) =>
    let clients := x.clients - 1
    if clients > 0 then s.setEntry e { x with clients := clients }
    else
      let sanitized := sanitizeProtectedBuffers y x.doc true
      let x := { x with
        doc := sanitized.1
        dirty := x.dirty || sanitized.2
        clients := clients
        destroyed := false }
      (s.setEntry e x).goto i (some (.put .release e x.doc))
  | none => s

/-- The registered entry takes the update. -/
def accepts (s : State E) (u : Update E) : Bool :=
  s.registered.any fun p => checkCandidate y (y.merge p.2.doc u)

def applyUpdate (s : State E) (u : Update E) : State E :=
  match s.registered with
  | some (e, x) =>
    if checkCandidate y (y.merge x.doc u) then
      { s.setEntry e { x with doc := y.merge x.doc u, dirty := true, destroyed := false } with
        accepted := s.accepted ∪ u.fileEdits }
    else s
  | none => s

/-- The update `seedFileContent` makes of the registered document. -/
def seedOf (s : State E) (path content : String) (edit : E) : Option (Update E) :=
  s.registered.bind fun p => seedUpdate y p.2.doc path content edit

def seedFileContent (s : State E) (path content : String) (edit : E) : State E :=
  match seedOf y s path content edit with
  | some u => applyUpdate y s u
  | none => s

/-- The next step of the pending load. -/
def advance (s : State E) : State E :=
  match s.loading with
  | some (e, .reading) => { s with loading := some (e, .read s.snapshot) }
  | some (e, .read snapshot) =>
    let sanitized := sanitizeProtectedBuffers y (snapshot.getD Doc.empty) true
    { s.setEntry e ⟨sanitized.1, sanitized.2, 0, false⟩ with
      docs := some e
      loading := some (e, .settled) }
  | some (_, .settled) => { s with loading := none }
  | none => s

omit [DecidableEq E] in
/-- The next step of task `t`, numbered `i`; `none` while what it waits for is pending. -/
def resume (s : State E) (i : Nat) : Task E → Option (State E)
  | .retain e =>
    if s.loading.any (·.1 == e) then none
    else some <| match s.heap e with
      | some x => (s.countIn e x).goto i none
      | none => s.goto i none
  | .put caller e body => some ({ s with snapshot := some body }.goto i (some (.flushed caller e true)))
  | .flushed .release e stored =>
    (s.heap e).map fun x =>
      { s.setEntry e { x with dirty := x.dirty && !stored, destroyed := true } with
        docs := none }.goto i none
  | .flushed .timer e stored =>
    (s.heap e).map fun x => (s.setEntry e { x with dirty := x.dirty && !stored }).goto i none

inductive Event (E : Type)
  | retain (i : Nat)
  | release (i : Nat)
  | applyUpdate (u : Update E)
  | seedFileContent (path content : String) (edit : E)
  /-- The flush timer reaches the session. -/
  | tick (i : Nat)
  | load
  /-- `storage.get` of the pending load is rejected. -/
  | loadFails
  /-- What task `i` waits for has happened, and the task goes on; a put lands. -/
  | resume (i : Nat)
  /-- The put of task `i` is rejected, having been stored or not. -/
  | putFails (i : Nat) (stored : Bool)

def step (s : State E) : Event E → Option (State E)
  | .retain i => if (s.tasks.get i).isNone then some (retain s i) else none
  | .release i => if (s.tasks.get i).isNone ∧ 0 < s.held then
      some (release y { s with held := s.held - 1 } i) else none
  | .applyUpdate u => some (applyUpdate y s u)
  | .seedFileContent path content edit => some (seedFileContent y s path content edit)
  | .tick i => if (s.tasks.get i).isNone then some (flushDirty s i) else none
  | .load => s.loading.map fun _ => advance y s
  | .loadFails => match s.loading with
    | some (e, .reading) => some { s with loading := some (e, .settled) }
    | _ => none
  | .resume i => (s.tasks.get i).bind (resume s i)
  | .putFails i stored => match s.tasks.get i with
    | some (.put caller e body) =>
      some ({ s with snapshot := if stored then some body else s.snapshot }.goto i
        (some (.flushed caller e false)))
    | _ => none

end Livetich.Code.DocService
