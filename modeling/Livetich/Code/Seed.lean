/-
`seedFileContent` at the level of what Yjs stores: the scratch copy of the document, the edits made
to it, the update encoded against the state vector of the copy, and `applyUpdate` of that update;
with `onEdit` and `onUpdate` of the code gateway as the two ways the document of a session changes
while its room is open.

How Yjs reads the roots of a document from its structs, and which structs an edit adds, are
parameters (`Y`). The scratch document has a client id of its own: Yjs takes another when the
document it has applied speaks of it.
-/
import Mathlib.Data.String.Basic
import Mathlib.Data.Finset.Fold
import Mathlib.Data.Finset.Sort
import Livetich.Lib.Replica
import Livetich.Code.Gateway

namespace Livetich.Code.Seed

open TransSys
open Livetich.Sockets (Failure)

abbrev YDoc (K : Type) := Replica K

/-! ## The roots -/

/-- `doc.share`, each root read as the type the schema gives it. -/
structure Share where
  metadata : Option MapEntries
  initialized : Option MapEntries
  /-- The paths of the `file:` roots; the root `file:initialized` is the map. -/
  files : List String
  text : String → String
  length : String → Nat
  others : List String

def truthy : Value → Bool
  | .text s => s != ""
  | .bool b => b
  | .other => true

namespace Share

def marks (s : Share) : MapEntries := s.initialized.getD []

/-- `initialized.get(path)`, as a condition. -/
def marked (s : Share) (path : String) : Bool := s.marks.any fun entry => entry.1 == path && truthy entry.2

/-- The buffer of one file: its text, its length, and whether there is a root. -/
def buffer (s : Share) (path : String) : String × Nat × Bool := (s.text path, s.length path, s.files.contains path)

theorem marked_iff {s : Share} {path : String} :
    s.marked path = true ↔ ∃ value, (path, value) ∈ s.marks ∧ truthy value = true := by
  unfold marked
  rw [List.any_eq_true]
  constructor
  · rintro ⟨⟨key, value⟩, hmem, hkey⟩
    simp only [Bool.and_eq_true, beq_iff_eq] at hkey
    obtain ⟨rfl, hvalue⟩ := hkey
    exact ⟨value, hmem, hvalue⟩
  · rintro ⟨value, hmem, hvalue⟩
    exact ⟨(path, value), hmem, by simp [hvalue]⟩

end Share

structure Y (K : Type) where
  share : YDoc K → Share
  encodeStateVector : YDoc K → Nat → Nat
  /-- The length of the encoded state. -/
  byteLength : YDoc K → Nat
  /-- The content stands beside or under a struct of the client, and waits for it. -/
  refers : K → (client : Nat) → Bool
  /-- `getText('file:' + path).insert(0, content)`, by a client. -/
  insert : YDoc K → (client : Nat) → (path content : String) → YDoc K
  /-- `getMap('file:initialized').set(path, true)`, by a client. -/
  set : YDoc K → (client : Nat) → (path : String) → YDoc K

/-- The document does not speak of the client. -/
def Unused {K : Type} (y : Y K) (d : YDoc K) (client : Nat) : Prop :=
  d.Fresh client ∧ ∀ s ∈ d.structs, y.refers s.2 client = false

instance decidableUnused {K : Type} (y : Y K) (d : YDoc K) (client : Nat) : Decidable (Unused y d client) :=
  inferInstanceAs (Decidable (d.Fresh client ∧ ∀ s ∈ d.structs, y.refers s.2 client = false))

/-! ## `CodeDocService` -/

/-- The loop of `applyUpdate` over the `file:` roots. -/
def checkFiles (s : Share) : (fileCount totalFileBytes : Nat) → List String → Bool
  | _, _, [] => true
  | fileCount, totalFileBytes, path :: paths =>
    if path = "" ∧ s.length path = 0 then checkFiles s fileCount totalFileBytes paths
    else
      let fileBytes := (s.text path).utf8ByteSize
      isFilePath path && !overQuota (fileCount + 1) fileBytes (totalFileBytes + fileBytes) &&
        checkFiles s (fileCount + 1) (totalFileBytes + fileBytes) paths

section

variable {K : Type} [DecidableEq K] (y : Y K)

omit [DecidableEq K] in
def checkCandidate (d : YDoc K) : Bool :=
  let s := y.share d
  s.metadata.all checkMetadata && s.initialized.all checkInitialized && s.others.isEmpty &&
    checkFiles s 0 0 s.files && y.byteLength d ≤ maxCodeDocBytes

/-- The document after `applyUpdate`, and what the call returns. `update` is `none` where Yjs cannot
read the bytes. -/
def applyUpdate (doc : Option (YDoc K)) (update : Option (YDoc K)) : Option (YDoc K) × Bool :=
  match doc, update with
  | some d, some u =>
    let candidate := (Replica.empty.merge d).merge u
    if checkCandidate y candidate then (some candidate, true) else (doc, false)
  | _, _ => (doc, false)

/-- The `try` block of `seedFileContent`. -/
def delta (d : YDoc K) (client : Nat) (path content : String) : Option (YDoc K) :=
  let candidate := Replica.empty.merge d
  let stateVector := y.encodeStateVector candidate
  if (y.share candidate).marked path then none
  -- the root is the map, and `getText` throws
  else if path = "initialized" then none
  else
    let inserted :=
      if (y.share candidate).length path = 0 ∧ content ≠ "" then y.insert candidate client path content
      else candidate
    some ((y.set inserted client path).since stateVector)

/-- The document after `seedFileContent`, and the update it returns. -/
def seedFileContent (doc : Option (YDoc K)) (client : Nat) (path content : String) :
    Option (YDoc K) × Option (YDoc K) :=
  match doc with
  | none => (none, none)
  | some d =>
    if !isSafeDocumentPath path || isProtectedCodePath path || content.utf8ByteSize > maxCodeFileBytes then
      (doc, none)
    else match delta y d client path content with
      | none => (doc, none)
      | some update =>
        let applied := applyUpdate y doc (some update)
        (applied.1, if applied.2 then some update else none)

/-! ## The gateway -/

/-- `onEdit`: the document after it, and the update sent to the room. -/
def onEdit (k : CodeSock) (sessionId : SessionId) (doc : Option (YDoc K)) (client : Nat)
    (path content : String) : Except Failure (Option (YDoc K) × Option (YDoc K)) :=
  asController k sessionId "The code editor is currently read-only for you" <|
    if !isFilePath path || content.utf8ByteSize > 1024 * 1024 then .ok (doc, none)
    else .ok (seedFileContent y doc client path content)

/-- `onUpdate`; `canWrite` is what the permission of the session says of the user. -/
def onUpdate (k : CodeSock) (canWrite : Bool) (sessionId : SessionId) (doc : Option (YDoc K))
    (byteLength : Nat) (update : Option (YDoc K)) : Except Failure (Option (YDoc K)) :=
  if !k.inRoom sessionId then .error notInRoom
  else if !k.controls sessionId && !canWrite then
    .error ⟨"FORBIDDEN", "The code editor is currently read-only for you"⟩
  else if byteLength = 0 ∨ byteLength > maxCodeUpdateBytes then .ok doc
  else
    let applied := applyUpdate y doc update
    if applied.2 then .ok applied.1 else .error
      ⟨"INVALID_CODE_UPDATE", "The update contains an invalid or oversized code document"⟩

/-- A message any socket sends; `client` is the id of the scratch document of a seed. -/
inductive Message (K : Type)
  | edit (k : CodeSock) (client : Nat) (path content : String)
  | update (k : CodeSock) (canWrite : Bool) (byteLength : Nat) (update : Option (YDoc K))

/-- The document once a message is handled; `none` where the client id is not the scratch document's own. -/
def step (sessionId : SessionId) (doc : Option (YDoc K)) : Message K → Option (Option (YDoc K))
  | .edit k client path content =>
    if ∀ d ∈ doc, Unused y d client then
      some (((onEdit y k sessionId doc client path content).toOption.map (·.1)).getD doc)
    else none
  | .update k canWrite byteLength update =>
    some ((onUpdate y k canWrite sessionId doc byteLength update).toOption.getD doc)

end

variable {K : Type} [DecidableEq K] {y : Y K}

/-! ## What Yjs does -/

/-- The roots agree but for the files and their marks. -/
structure Agree (s s' : Share) : Prop where
  metadata : ∀ entry, entry ∈ s'.metadata.getD [] ↔ entry ∈ s.metadata.getD []
  others : ∀ root, root ∈ s'.others ↔ root ∈ s.others

theorem Agree.refl (s : Share) : Agree s s := ⟨fun _ => Iff.rfl, fun _ => Iff.rfl⟩

theorem Agree.trans {r s t : Share} (h₁ : Agree r s) (h₂ : Agree s t) : Agree r t :=
  ⟨fun entry => (h₂.metadata entry).trans (h₁.metadata entry), fun root => (h₂.others root).trans (h₁.others root)⟩

/-- A scratch copy that holds at most one edit of its client. -/
inductive Scratch (y : Y K) (client : Nat) : YDoc K → Prop
  | copy {d : YDoc K} : Unused y d client → Scratch y client d
  | inserted {d : YDoc K} {path content : String} : Unused y d client →
    Scratch y client (y.insert d client path content)

/-- What the code relies on in Yjs: an edit adds structs of the client that makes it and reads back as
that edit, all else staying as it was. -/
structure Lawful (y : Y K) : Prop where
  encodeStateVector {d : YDoc K} {client : Nat} : Unused y d client → y.encodeStateVector d client = 0
  text_of_length {d : YDoc K} {path : String} : (y.share d).length path = 0 → (y.share d).text path = ""
  insert_writes (d : YDoc K) (client : Nat) (path content : String) :
    Replica.Writes client d (y.insert d client path content)
  insert_text {d : YDoc K} {client : Nat} {path : String} (content : String) : Unused y d client →
    path ≠ "initialized" → (y.share d).length path = 0 →
    (y.share (y.insert d client path content)).text path = content
  insert_buffer {d : YDoc K} {client : Nat} {path q : String} (content : String) : Unused y d client →
    path ≠ "initialized" → q ≠ path →
    (y.share (y.insert d client path content)).buffer q = (y.share d).buffer q
  insert_marks {d : YDoc K} {client : Nat} {path : String} (content : String) : Unused y d client →
    path ≠ "initialized" →
    ∀ entry, entry ∈ (y.share (y.insert d client path content)).marks ↔ entry ∈ (y.share d).marks
  insert_agree {d : YDoc K} {client : Nat} {path : String} (content : String) : Unused y d client →
    path ≠ "initialized" → Agree (y.share d) (y.share (y.insert d client path content))
  set_writes (d : YDoc K) (client : Nat) (path : String) : Replica.Writes client d (y.set d client path)
  set_buffer {d : YDoc K} {client : Nat} (path q : String) : Scratch y client d →
    (y.share (y.set d client path)).buffer q = (y.share d).buffer q
  set_marks {d : YDoc K} {client : Nat} (path : String) : Scratch y client d →
    ∀ entry, entry ∈ (y.share (y.set d client path)).marks ↔
      entry = (path, .bool true) ∨ entry.1 ≠ path ∧ entry ∈ (y.share d).marks
  set_agree {d : YDoc K} {client : Nat} (path : String) : Scratch y client d →
    Agree (y.share d) (y.share (y.set d client path))

/-! ## One seed -/

/-- What an accepted seed of a file does to the roots. -/
structure Seeded (s s' : Share) (path content : String) : Prop where
  unmarked : s.marked path = false
  marked : s'.marked path = true
  text : s'.text path = if s.length path = 0 then content else s.text path
  /-- It only replaces the empty text. -/
  empty : s.length path = 0 → s.text path = ""
  buffers : ∀ q ≠ path, s'.buffer q = s.buffer q
  marks : ∀ q ≠ path, s'.marked q = s.marked q
  agree : Agree s s'

theorem text_of_buffer {s s' : Share} {q : String} (h : s'.buffer q = s.buffer q) : s'.text q = s.text q :=
  congrArg Prod.fst h

omit [DecidableEq K] in
/-- The buffers after the insertion, if there is one. -/
theorem inserted_spec (hy : Lawful y) {d : YDoc K} {client : Nat} (hunused : Unused y d client) {path content : String}
    (hpath : path ≠ "initialized") {e : YDoc K}
    (he : e = if (y.share d).length path = 0 ∧ content ≠ "" then y.insert d client path content else d) :
    Scratch y client e ∧ Replica.Writes client d e ∧
      (y.share e).text path = (if (y.share d).length path = 0 then content else (y.share d).text path) ∧
      (∀ q ≠ path, (y.share e).buffer q = (y.share d).buffer q) ∧
      (∀ entry, entry ∈ (y.share e).marks ↔ entry ∈ (y.share d).marks) ∧ Agree (y.share d) (y.share e) := by
  by_cases h : (y.share d).length path = 0 ∧ content ≠ ""
  · rw [if_pos h] at he
    subst he
    refine ⟨.inserted hunused, hy.insert_writes .., ?_, fun q hq => hy.insert_buffer content hunused hpath hq,
      hy.insert_marks content hunused hpath, hy.insert_agree content hunused hpath⟩
    rw [if_pos h.1, hy.insert_text content hunused hpath h.1]
  · rw [if_neg h] at he
    subst he
    refine ⟨.copy hunused, .refl .., ?_, fun _ _ => rfl, fun _ => Iff.rfl, .refl _⟩
    split
    · rename_i hlength
      -- an empty content is not inserted
      have hcontent : content = "" := by
        by_contra hne
        exact h ⟨hlength, hne⟩
      rw [hcontent, hy.text_of_length hlength]
    · rfl

/-- What the update does where it is applied. -/
theorem delta_spec (hy : Lawful y) {d update : YDoc K} {client : Nat} (hunused : Unused y d client)
    {path content : String} (h : delta y d client path content = some update) :
    Seeded (y.share d) (y.share (d.merge update)) path content := by
  unfold delta at h
  simp only [Replica.empty_merge] at h
  by_cases hmarked : (y.share d).marked path = true
  · rw [if_pos hmarked] at h
    cases h
  rw [if_neg hmarked] at h
  by_cases hpath : path = "initialized"
  · rw [if_pos hpath] at h
    cases h
  rw [if_neg hpath, Option.some.injEq] at h
  generalize he : (if (y.share d).length path = 0 ∧ content ≠ "" then y.insert d client path content else d) = e at *
  obtain ⟨hscratch, hwrites, htext, hbuffers, hmarks, hagree⟩ := inserted_spec hy hunused hpath he.symm
  -- the update brings the copy's state
  have hmerge : d.merge update = y.set e client path := by
    rw [← h]
    exact Replica.merge_since (hwrites.trans (hy.set_writes ..)) hunused.1 (hy.encodeStateVector hunused)
  have hset := hy.set_marks path hscratch
  rw [hmerge]
  constructor
  · simpa using hmarked
  · exact Share.marked_iff.2 ⟨.bool true, (hset _).2 (.inl rfl), rfl⟩
  · rw [text_of_buffer (hy.set_buffer path path hscratch), htext]
  · exact hy.text_of_length
  · intro q hq
    rw [hy.set_buffer path q hscratch, hbuffers q hq]
  · intro q hq
    rw [Bool.eq_iff_iff, Share.marked_iff, Share.marked_iff]
    refine exists_congr fun value => and_congr_left fun _ => ?_
    rw [hset, hmarks]
    simp [hq]
  · exact hagree.trans (hy.set_agree path hscratch)

theorem applyUpdate_spec {doc doc' : Option (YDoc K)} {update : Option (YDoc K)}
    (h : applyUpdate y doc update = (doc', true)) :
    ∃ d u, doc = some d ∧ update = some u ∧ doc' = some (d.merge u) := by
  unfold applyUpdate at h
  split at h
  · rename_i d u
    simp only [Replica.empty_merge] at h
    split at h
    · cases h
      exact ⟨d, u, rfl, rfl, rfl⟩
    · cases h
  · cases h

/-- An update that is not accepted leaves the document. -/
theorem applyUpdate_refused {doc doc' : Option (YDoc K)} {update : Option (YDoc K)}
    (h : applyUpdate y doc update = (doc', false)) : doc' = doc := by
  unfold applyUpdate at h
  split at h
  · dsimp only at h
    split at h <;> cases h
    rfl
  · cases h
    rfl

/-- What a call makes of the document, by the update it returns: without one nothing, and with one
the file is seeded, and a replica in the state before comes to the state after by that update. -/
def Outcome (y : Y K) (doc : Option (YDoc K)) (path content : String) :
    Option (YDoc K) × Option (YDoc K) → Prop
  | (doc', none) => doc' = doc
  | (doc', some update) => ∃ d d', doc = some d ∧ doc' = some d' ∧
      Seeded (y.share d) (y.share d') path content ∧ d.merge update = d'

theorem seedFileContent_spec (hy : Lawful y) {doc : Option (YDoc K)} {client : Nat} (path content : String)
    (hunused : ∀ d ∈ doc, Unused y d client) :
    Outcome y doc path content (seedFileContent y doc client path content) := by
  unfold seedFileContent
  cases doc with
  | none => rfl
  | some d =>
    dsimp only
    split
    · rfl
    · cases hdelta : delta y d client path content with
      | none => rfl
      | some update =>
        cases happlied : applyUpdate y (some d) (some update) with | mk doc' accepted
        dsimp only
        rw [happlied]
        cases accepted with
        | false => exact applyUpdate_refused happlied
        | true =>
          obtain ⟨d, u, hd, hu, hdoc⟩ := applyUpdate_spec happlied
          cases hd
          cases hu
          exact ⟨d, d.merge update, rfl, hdoc, delta_spec hy (hunused d rfl) hdelta, rfl⟩

theorem onEdit_spec (hy : Lawful y) {k : CodeSock} {sessionId : SessionId} {doc : Option (YDoc K)} {client : Nat}
    {path content : String} {r : Option (YDoc K) × Option (YDoc K)} (hunused : ∀ d ∈ doc, Unused y d client)
    (h : onEdit y k sessionId doc client path content = .ok r) : Outcome y doc path content r := by
  obtain ⟨-, -, hr⟩ := asController_ok_iff.1 h
  split at hr
  · cases hr
    rfl
  · cases hr
    exact seedFileContent_spec hy path content hunused

/-! ## Seeds among updates -/

def textIn (y : Y K) (doc : Option (YDoc K)) (path : String) : Option String :=
  doc.map fun d => (y.share d).text path

def markedIn (y : Y K) (doc : Option (YDoc K)) (path : String) : Bool :=
  doc.any fun d => (y.share d).marked path

def Message.isEdit : Message K → Bool
  | .edit .. => true
  | .update .. => false

/-- A step is a seed that changes the text of a file. -/
def Changes (y : Y K) (path : String) (doc : Option (YDoc K)) (m : Message K) (doc' : Option (YDoc K)) : Prop :=
  m.isEdit = true ∧ textIn y doc' path ≠ textIn y doc path

/-- A step is an update that removes the mark of a file. -/
def Unmarks (y : Y K) (path : String) (doc : Option (YDoc K)) (m : Message K) (doc' : Option (YDoc K)) : Prop :=
  m.isEdit = false ∧ markedIn y doc path = true ∧ markedIn y doc' path = false

/-- A seed leaves the document, or seeds one file of it. -/
theorem step_edit (hy : Lawful y) {sessionId : SessionId} {doc doc' : Option (YDoc K)} {k : CodeSock} {client : Nat}
    {path content : String} (h : step y sessionId doc (.edit k client path content) = some doc') :
    doc' = doc ∨ ∃ d d', doc = some d ∧ doc' = some d' ∧ Seeded (y.share d) (y.share d') path content := by
  unfold step at h
  dsimp only at h
  split at h
  · rename_i hunused
    rw [Option.some.injEq] at h
    cases hr : onEdit y k sessionId doc client path content with
    | error f =>
      rw [hr] at h
      exact .inl h.symm
    | ok r =>
      rw [hr] at h
      have hspec := onEdit_spec hy hunused hr
      obtain ⟨after, sent⟩ := r
      cases h
      cases sent with
      | none => exact .inl hspec
      | some update =>
        obtain ⟨d, d', hd, hd', hseeded, -⟩ := hspec
        exact .inr ⟨d, d', hd, hd', hseeded⟩
  · cases h

/-- Only an update takes a mark away. -/
theorem step_marks (hy : Lawful y) {sessionId : SessionId} {doc doc' : Option (YDoc K)} {m : Message K}
    {path : String} (h : step y sessionId doc m = some doc') (hmarked : markedIn y doc path = true) :
    markedIn y doc' path = true ∨ Unmarks y path doc m doc' := by
  cases m with
  | edit k client p content =>
    refine .inl ?_
    rcases step_edit hy h with rfl | ⟨d, d', rfl, rfl, hseeded⟩
    · exact hmarked
    · by_cases hp : path = p
      · subst hp
        exact hseeded.marked
      · exact (hseeded.marks path hp).trans hmarked
  | update k canWrite byteLength update =>
    cases hm : markedIn y doc' path with
    | true => exact .inl rfl
    | false => exact .inr ⟨rfl, hmarked, hm⟩

/-- A seed that changes a text finds no mark, and leaves one. -/
theorem Changes.marks (hy : Lawful y) {sessionId : SessionId} {doc doc' : Option (YDoc K)} {m : Message K}
    {path : String} (hc : Changes y path doc m doc') (h : step y sessionId doc m = some doc') :
    markedIn y doc path = false ∧ markedIn y doc' path = true := by
  obtain ⟨hedit, htext⟩ := hc
  cases m with
  | edit k client p content =>
    rcases step_edit hy h with rfl | ⟨d, d', rfl, rfl, hseeded⟩
    · exact absurd rfl htext
    · by_cases hp : path = p
      · subst hp
        exact ⟨hseeded.unmarked, hseeded.marked⟩
      · refine absurd ?_ htext
        exact congrArg some (text_of_buffer (hseeded.buffers path hp))
  | update k canWrite byteLength update => cases hedit

/-- Where a run loses the mark of a file, one of its updates removes it. -/
theorem unmarked_by (hy : Lawful y) {sessionId : SessionId} {path : String} :
    ∀ {ms : List (Message K)} {doc doc' : Option (YDoc K)}, run (step y sessionId) doc ms = some doc' →
      markedIn y doc path = true → markedIn y doc' path = false →
      ∃ ms₁ m ms₂ t t', ms = ms₁ ++ m :: ms₂ ∧ run (step y sessionId) doc ms₁ = some t ∧
        step y sessionId t m = some t' ∧ Unmarks y path t m t'
  | [], doc, doc', h, hmarked, hunmarked => by
    cases h
    rw [hmarked] at hunmarked
    cases hunmarked
  | m :: ms, doc, doc', h, hmarked, hunmarked => by
    obtain ⟨s, hstep, h⟩ := run_cons.1 h
    rcases step_marks hy hstep hmarked with hs | hremoves
    · obtain ⟨ms₁, n, ms₂, t, t', rfl, hrun, hn, hremoves⟩ := unmarked_by hy h hs hunmarked
      exact ⟨m :: ms₁, n, ms₂, t, t', rfl, run_cons.2 ⟨s, hstep, hrun⟩, hn, hremoves⟩
    · exact ⟨[], m, ms, doc, s, rfl, rfl, hstep, hremoves⟩

namespace Example

/-- A document whose files are typed into once: of several insertions the greatest shows. -/
inductive Content
  | chars (path text : String)
  | mark (path : String)
  deriving DecidableEq

namespace Content

def textAt (path : String) : Content → String
  | .chars p text => if p = path then text else ""
  | .mark _ => ""

def marks : Content → Finset String
  | .chars .. => ∅
  | .mark path => {path}

def files : Content → Finset String
  | .chars path _ => {path}
  | .mark _ => ∅

end Content

def live (d : YDoc Content) : Finset (Replica.Id × Content) := d.structs.filter (·.1 ∉ d.deleted)

def marksOf (d : YDoc Content) : Finset String := (live d).biUnion (·.2.marks)

def filesOf (d : YDoc Content) : Finset String := d.structs.biUnion (·.2.files)

def textOf (d : YDoc Content) (path : String) : String := (live d).fold max "" (·.2.textAt path)

/-- The client adds a struct. -/
def add (d : YDoc Content) (client : Nat) (c : Content) : YDoc Content where
  structs := insert (⟨client, (d.structs.filter (·.1.client = client)).card⟩, c) d.structs
  deleted := d.deleted

def letters : Y Content where
  share d := {
    metadata := none
    initialized := some ((marksOf d).sort.map (·, .bool true))
    files := (filesOf d).sort
    text := textOf d
    length path := (textOf d path).length
    others := [] }
  encodeStateVector d client := (d.structs.filter (·.1.client = client)).card
  byteLength d := d.structs.card
  refers _ _ := false
  insert d client path content := add d client (.chars path content)
  set d client path := add d client (.mark path)

theorem mem_marks (d : YDoc Content) (entry : String × Value) :
    entry ∈ (letters.share d).marks ↔ entry.1 ∈ marksOf d ∧ entry.2 = .bool true := by
  show entry ∈ (marksOf d).sort.map (·, Value.bool true) ↔ _
  rw [List.mem_map]
  constructor
  · rintro ⟨path, hpath, rfl⟩
    exact ⟨(Finset.mem_sort _).1 hpath, rfl⟩
  · rintro ⟨hpath, hvalue⟩
    exact ⟨entry.1, (Finset.mem_sort _).2 hpath, by rw [← hvalue]⟩

theorem add_writes (d : YDoc Content) (client : Nat) (c : Content) : Replica.Writes client d (add d client c) where
  structs := Finset.subset_insert ..
  own s hs hnot := by
    rcases Finset.mem_insert.1 hs with rfl | hs
    · rfl
    · exact absurd hs hnot
  deleted := Finset.Subset.refl _

theorem undeleted {d : YDoc Content} {client : Nat} (h : Scratch letters client d) :
    ∀ i ∈ d.deleted, i.client ≠ client := by
  cases h with
  | copy hunused => exact hunused.1.2
  | inserted hunused => exact hunused.1.2

theorem live_add {d : YDoc Content} {client : Nat} (h : ∀ i ∈ d.deleted, i.client ≠ client) (c : Content) :
    live (add d client c) =
      insert (⟨client, (d.structs.filter (·.1.client = client)).card⟩, c) (live d) := by
  unfold live add
  rw [Finset.filter_insert, if_pos]
  exact fun hdel => h _ hdel rfl

theorem empty_le (s : String) : "" ≤ s := by
  refine le_of_not_gt fun h => ?_
  rw [String.lt_iff_toList_lt] at h
  exact List.not_lt_nil _ h

theorem textOf_add {d : YDoc Content} {client : Nat} (h : ∀ i ∈ d.deleted, i.client ≠ client) (c : Content)
    (path : String) : textOf (add d client c) path = max (c.textAt path) (textOf d path) := by
  unfold textOf
  rw [live_add h, Finset.fold_insert_idem]

theorem buffer_add {d : YDoc Content} {client : Nat} (h : ∀ i ∈ d.deleted, i.client ≠ client) {c : Content}
    {q : String} (htext : c.textAt q = "") (hfile : q ∉ c.files) :
    (letters.share (add d client c)).buffer q = (letters.share d).buffer q := by
  have ht : textOf (add d client c) q = textOf d q := by
    rw [textOf_add h, htext, max_eq_right (empty_le _)]
  have hf : (filesOf (add d client c)).sort.contains q = (filesOf d).sort.contains q := by
    rw [Bool.eq_iff_iff, List.contains_iff_mem, List.contains_iff_mem, Finset.mem_sort, Finset.mem_sort]
    unfold filesOf add
    rw [Finset.biUnion_insert, Finset.mem_union]
    simp [hfile]
  show (textOf (add d client c) q, (textOf (add d client c) q).length, _) = _
  rw [ht]
  exact congrArg _ (congrArg _ hf)

theorem marks_add {d : YDoc Content} {client : Nat} (h : ∀ i ∈ d.deleted, i.client ≠ client) (c : Content)
    (entry : String × Value) : entry ∈ (letters.share (add d client c)).marks ↔
      (entry.1 ∈ c.marks ∧ entry.2 = .bool true) ∨ entry ∈ (letters.share d).marks := by
  rw [mem_marks, mem_marks]
  unfold marksOf
  rw [live_add h, Finset.biUnion_insert, Finset.mem_union, or_and_right]

theorem letters_lawful : Lawful letters where
  encodeStateVector {d client} hunused := by
    show (d.structs.filter (·.1.client = client)).card = 0
    rw [Finset.card_eq_zero, Finset.filter_eq_empty_iff]
    exact hunused.1.1
  text_of_length h := String.length_eq_zero_iff.1 h
  insert_writes d client path content := add_writes ..
  insert_text {d client path} content hunused hpath h := by
    show textOf (add d client (.chars path content)) path = content
    have hempty : textOf d path = "" := String.length_eq_zero_iff.1 h
    rw [textOf_add hunused.1.2, hempty]
    simp [Content.textAt, max_eq_left (empty_le content)]
  insert_buffer {d client path q} content hunused hpath hq := by
    refine buffer_add hunused.1.2 ?_ ?_
    · simp [Content.textAt, hq.symm]
    · simp [Content.files, hq]
  insert_marks {d client path} content hunused hpath entry := by
    rw [show letters.insert d client path content = add d client (.chars path content) from rfl,
      marks_add hunused.1.2]
    simp [Content.marks]
  insert_agree _ _ _ := ⟨fun _ => Iff.rfl, fun _ => Iff.rfl⟩
  set_writes d client path := add_writes ..
  set_buffer {d client} path q h := buffer_add (undeleted h) rfl (by simp [Content.files])
  set_marks {d client} path h entry := by
    rw [show letters.set d client path = add d client (.mark path) from rfl, marks_add (undeleted h)]
    obtain ⟨key, value⟩ := entry
    by_cases hkey : key = path
    · subst hkey
      simp only [Content.marks, Finset.mem_singleton, true_and, Prod.mk.injEq, ne_eq, not_true, false_and, or_false]
      rw [mem_marks]
      exact ⟨fun h => h.elim id And.right, .inl⟩
    · simp [Content.marks, hkey]
  set_agree _ _ := ⟨fun _ => Iff.rfl, fun _ => Iff.rfl⟩

/-- A document with one file is accepted. -/
theorem check_letters {d : YDoc Content} (path : String) (hfiles : filesOf d = {path})
    (hmarks : marksOf d = ∅ ∨ marksOf d = {path}) (hpath : isFilePath path = true)
    (htext : (textOf d path).utf8ByteSize ≤ 100) (hcard : d.structs.card ≤ 100) : checkCandidate letters d = true := by
  have hmarked : (some ((marksOf d).sort.map (·, Value.bool true))).all checkInitialized = true := by
    rcases hmarks with h | h
    · rw [h, Finset.sort_empty]
      decide
    · rw [h, Finset.sort_singleton]
      simp [checkInitialized, maxCodeFiles, isMark, hpath]
  have hne : path ≠ "" := by
    rintro rfl
    rw [isFilePath_empty] at hpath
    cases hpath
  have hchecked : checkFiles (letters.share d) 0 0 (filesOf d).sort = true := by
    rw [hfiles, Finset.sort_singleton]
    have hquota : overQuota 1 (textOf d path).utf8ByteSize (textOf d path).utf8ByteSize = false := by
      simp [overQuota, maxCodeFiles, maxCodeFileBytes, maxCodeTextBytes]
      omega
    simp only [checkFiles, hne, false_and, if_false, hpath, Bool.true_and, Nat.zero_add, Bool.and_true,
      Bool.not_eq_true']
    exact hquota
  unfold checkCandidate
  simp only [Bool.and_eq_true, decide_eq_true_eq]
  refine ⟨⟨⟨⟨rfl, hmarked⟩, rfl⟩, hchecked⟩, ?_⟩
  show d.structs.card ≤ maxCodeDocBytes
  unfold maxCodeDocBytes
  omega

/-- The document once `main.ts` is seeded. -/
def seeded : YDoc Content := ⟨{(⟨7, 0⟩, .chars "main.ts" "let x"), (⟨7, 1⟩, .mark "main.ts")}, ∅⟩

/-- An update that deletes the text of `main.ts` and its mark. -/
def wiped : YDoc Content := ⟨∅, {⟨7, 0⟩, ⟨7, 1⟩}⟩

/-- The document seeded again after that. -/
def again : YDoc Content := (seeded.merge wiped).merge
  ⟨{(⟨8, 0⟩, .chars "main.ts" "let y"), (⟨8, 1⟩, .mark "main.ts")}, wiped.deleted⟩

theorem marked_letters {d : YDoc Content} {path : String} :
    (letters.share d).marked path = true ↔ path ∈ marksOf d := by
  rw [Share.marked_iff]
  constructor
  · rintro ⟨value, hmem, -⟩
    exact ((mem_marks _ _).1 hmem).1
  · intro h
    exact ⟨.bool true, (mem_marks _ _).2 ⟨h, rfl⟩, rfl⟩

/-- A seed of an unmarked empty file. -/
theorem seed_letters {d e : YDoc Content} {client : Nat} {path content : String} (hpath : isFilePath path = true)
    (hcontent : content ≠ "" ∧ content.utf8ByteSize ≤ 100) (hroot : path ≠ "initialized")
    (hmarked : path ∉ marksOf d) (htext : textOf d path = "") {update : YDoc Content}
    (hupdate : (add (add d client (.chars path content)) client (.mark path)).since (letters.encodeStateVector d) =
      update)
    (he : d.merge update = e) (haccepted : checkCandidate letters e = true) :
    seedFileContent letters (some d) client path content = (some e, some update) := by
  have hdelta : delta letters d client path content = some update := by
    unfold delta
    simp only [Replica.empty_merge]
    rw [if_neg (fun h => hmarked (marked_letters.1 h)), if_neg hroot,
      if_pos ⟨show (textOf d path).length = 0 by rw [htext]; rfl, hcontent.1⟩, ← hupdate]
    rfl
  have happlied : applyUpdate letters (some d) (some update) = (some e, true) := by
    unfold applyUpdate
    simp only [Replica.empty_merge]
    rw [he, if_pos haccepted]
  have hguard : (!isSafeDocumentPath path || isProtectedCodePath path ||
      decide (content.utf8ByteSize > maxCodeFileBytes)) = false := by
    unfold isFilePath at hpath
    have hlen : ¬ content.utf8ByteSize > maxCodeFileBytes := by
      unfold maxCodeFileBytes
      omega
    simp_all
  unfold seedFileContent
  simp [hguard, hdelta, happlied]

theorem seeded_accepted : checkCandidate letters seeded = true :=
  check_letters "main.ts" (by decide) (.inr (by decide)) (by decide) (by decide) (by decide)

theorem wiped_accepted : checkCandidate letters (seeded.merge wiped) = true :=
  check_letters "main.ts" (by decide) (.inl (by decide)) (by decide) (by decide) (by decide)

theorem again_accepted : checkCandidate letters again = true :=
  check_letters "main.ts" (by decide) (.inr (by decide)) (by decide) (by decide) (by decide)

theorem first_seed : seedFileContent letters (some .empty) 7 "main.ts" "let x" = (some seeded, some seeded) :=
  seed_letters (by decide) (by decide) (by decide) (by decide) (by decide)
    (Replica.ext (by decide) (by decide)) (Replica.ext (by decide) (by decide)) seeded_accepted

theorem second_seed : (seedFileContent letters (some (seeded.merge wiped)) 8 "main.ts" "let y").1 = some again := by
  rw [seed_letters (by decide) (by decide) (by decide) (by decide) (by decide) rfl
    (Replica.ext (by decide) (by decide)) again_accepted]

/-- A teacher in the room of the session. -/
def host : CodeSock :=
  ⟨⟨⟨"teacher", .instructor, "Teacher", some "org", none, none⟩, some true, ["session"], []⟩, ["session"], [], none⟩

theorem host_edits (doc : Option (YDoc Content)) (client : Nat) {content : String}
    (h : content.utf8ByteSize ≤ 1024 * 1024) : onEdit letters host "session" doc client "main.ts" content =
      .ok (seedFileContent letters doc client "main.ts" content) := by
  have hpath : isFilePath "main.ts" = true := by decide
  have hlen : ¬ content.utf8ByteSize > 1024 * 1024 := by omega
  unfold onEdit asController
  simp [host, CodeSock.controls, Sockets.Sock.inRoom, hpath, hlen]

theorem host_wipes : onUpdate letters host false "session" (some seeded) 100 (some wiped) =
    .ok (some (seeded.merge wiped)) := by
  have happlied : applyUpdate letters (some seeded) (some wiped) = (some (seeded.merge wiped), true) := by
    unfold applyUpdate
    simp only [Replica.empty_merge]
    rw [if_pos wiped_accepted]
  unfold onUpdate
  simp [host, CodeSock.controls, Sockets.Sock.inRoom, maxCodeUpdateBytes, happlied]

end Example

end Livetich.Code.Seed
