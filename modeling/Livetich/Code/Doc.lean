/-
The shared code document: its roots, the check `applyUpdate` makes of a candidate, and the
compaction `sanitizeProtectedBuffers` makes of a loaded or released document. A document has the
map roots `meta` and `file:initialized`, the text roots `file:<path>` in the order of `doc.share`,
and any other roots a client has sent. Of a text it records the edits applied to it; a compacted
text is written anew from its content, and still stands for the edits that content comes from.

How Yjs merges a map, renders a text, and keeps and encodes a document are parameters (`Yjs`).
-/
import Mathlib.Data.Finset.Union
import Livetich.Code.Paths

namespace Livetich.Code

variable {E : Type} [DecidableEq E]

/-! ## Data -/

/-- A value of a shared map. -/
inductive Value
  | text (s : String)
  | bool (b : Bool)
  | other
  deriving DecidableEq

abbrev MapEntries := List (String × Value)

structure Doc (E : Type) where
  metadata : Option MapEntries
  initialized : Option MapEntries
  /-- The paths of the `file:` roots; the root `file:initialized` is the map. -/
  files : List String
  edits : Finset (String × E)
  /-- Roots of any other name. -/
  others : List String
  /-- The structs Yjs keeps beyond one for each text and entry: deleted content, text typed in pieces. -/
  surplus : Nat
  deriving DecidableEq

/-- What an update sets in a shared map; `none` deletes the key. -/
abbrev MapUpdate := List (String × Option Value)

structure Update (E : Type) where
  metadata : Option MapUpdate
  initialized : Option MapUpdate
  texts : List (String × Finset E)
  others : List String

structure Yjs (E : Type) where
  mergeMap : MapEntries → MapUpdate → MapEntries
  text : Finset E → String
  surplus : Doc E → Update E → Nat
  encodedBytes : Doc E → Nat

namespace Doc

def empty : Doc E := ⟨none, none, [], ∅, [], 0⟩

/-- The edits applied to the text of a path. -/
def editsOf (d : Doc E) (path : String) : Finset E := (d.edits.filter (·.1 = path)).image (·.2)

/-- The text edits of files the document may hold. -/
def fileEdits (d : Doc E) : Finset (String × E) := d.edits.filter fun a => isFilePath a.1

end Doc

namespace Update

/-- The texts that merge as texts. -/
def fileTexts (u : Update E) : List (String × Finset E) := u.texts.filter (·.1 ≠ "initialized")

def edits (u : Update E) : Finset (String × E) :=
  u.fileTexts.foldr (fun t es => t.2.image (t.1, ·) ∪ es) ∅

def fileEdits (u : Update E) : Finset (String × E) := u.edits.filter fun a => isFilePath a.1

end Update

/-- Keep the roots of `a` and append the new ones of `b`. -/
def appendNew (a b : List String) : List String := b.foldl (fun r p => if p ∈ r then r else r ++ [p]) a

namespace Yjs

variable (y : Yjs E)

/-- `Y.applyUpdate`. -/
def merge (d : Doc E) (u : Update E) : Doc E where
  metadata := match u.metadata with
    | some m => some (y.mergeMap (d.metadata.getD []) m)
    | none => d.metadata
  initialized := match u.initialized with
    | some m => some (y.mergeMap (d.initialized.getD []) m)
    | none => d.initialized
  files := appendNew d.files (u.fileTexts.map (·.1))
  edits := d.edits ∪ u.edits
  others := appendNew d.others u.others
  surplus := y.surplus d u

def textOf (d : Doc E) (path : String) : String := y.text (d.editsOf path)

end Yjs

/-! ## The check of a candidate -/

def maxCodeFiles : Nat := 500
def maxCodeFileBytes : Nat := 1024 * 1024
def maxCodeTextBytes : Nat := 20 * 1024 * 1024
def maxCodeDocBytes : Nat := 128 * 1024 * 1024

/-- An entry `meta` may hold: the short language name. -/
def isLanguage : String × Value → Bool
  | (key, .text s) => key == "lang" && jsLength s.toList ≤ 32
  | _ => false

/-- An entry `file:initialized` may hold. -/
def isMark (entry : String × Value) : Bool := isFilePath entry.1 && entry.2 == .bool true

def valueBytes : Value → Nat
  | .text s => s.utf8ByteSize
  | _ => 0

def checkMetadata (m : MapEntries) : Bool :=
  m.length ≤ 8 && m.all isLanguage &&
    (m.map fun entry => entry.1.utf8ByteSize + valueBytes entry.2).sum ≤ 256

def checkInitialized (m : MapEntries) : Bool := m.length ≤ maxCodeFiles && m.all isMark

def overQuota (fileCount fileBytes totalFileBytes : Nat) : Bool :=
  fileCount > maxCodeFiles || fileBytes > maxCodeFileBytes || totalFileBytes > maxCodeTextBytes

/-- The loop over the `file:` roots, with the files and bytes counted so far. -/
def checkFiles (content : String → String) : (fileCount totalFileBytes : Nat) → List String → Bool
  | _, _, [] => true
  | fileCount, totalFileBytes, path :: paths =>
    -- the editor creates `file:` while no file is selected
    if path = "" ∧ content path = "" then checkFiles content fileCount totalFileBytes paths
    else
      let fileBytes := (content path).utf8ByteSize
      isFilePath path && !overQuota (fileCount + 1) fileBytes (totalFileBytes + fileBytes) &&
        checkFiles content (fileCount + 1) (totalFileBytes + fileBytes) paths

def checkCandidate (y : Yjs E) (d : Doc E) : Bool :=
  d.metadata.all checkMetadata && d.initialized.all checkInitialized && d.others.isEmpty &&
    checkFiles (y.textOf d) 0 0 d.files && y.encodedBytes d ≤ maxCodeDocBytes

/-! ## Compaction -/

/-- The files `sanitizeProtectedBuffers` drops, with the files and bytes counted so far. -/
def droppedFiles (content : String → String) :
    (fileCount totalFileBytes : Nat) → List String → List String
  | _, _, [] => []
  | fileCount, totalFileBytes, path :: paths =>
    if isFilePath path then
      let fileBytes := (content path).utf8ByteSize
      let rest := droppedFiles content (fileCount + 1) (totalFileBytes + fileBytes) paths
      if overQuota (fileCount + 1) fileBytes (totalFileBytes + fileBytes) then path :: rest else rest
    else path :: droppedFiles content fileCount totalFileBytes paths

def protectedPaths (y : Yjs E) (d : Doc E) : List String :=
  ((d.initialized.getD []).filter fun entry => !isMark entry).map (·.1) ++
    droppedFiles (y.textOf d) 0 0 d.files

def needsSanitizing (y : Yjs E) (d : Doc E) : Bool :=
  !(d.metadata.all fun m => m.all isLanguage) || !(protectedPaths y d).isEmpty || !d.others.isEmpty

def compacted (y : Yjs E) (d : Doc E) : Doc E where
  metadata := d.metadata.map fun m => m.filter isLanguage
  initialized := d.initialized.map fun m => m.filter fun entry =>
    !(protectedPaths y d).contains entry.1 && isSafeDocumentPath entry.1 && entry.2 == .bool true
  files := d.files.filter fun path => !(protectedPaths y d).contains path && y.textOf d path != ""
  edits := d.edits.filter fun a => a.1 ∉ protectedPaths y d
  others := []
  surplus := 0

/-- The document and whether it was changed. -/
def sanitizeProtectedBuffers (y : Yjs E) (d : Doc E) (forceCompact : Bool) : Doc E × Bool :=
  if !needsSanitizing y d && !forceCompact then (d, false) else (compacted y d, true)

/-- The update `seedFileContent` makes to seed a file, `edit` being the insertion. -/
def seedUpdate (y : Yjs E) (d : Doc E) (path content : String) (edit : E) : Option (Update E) :=
  if !isSafeDocumentPath path || isProtectedCodePath path || content.utf8ByteSize > maxCodeFileBytes then
    none
  else if (d.initialized.getD []).any fun entry =>
      entry.1 == path && entry.2 != .bool false && entry.2 != .text "" then none
  -- the text `file:initialized` would be the map
  else if path = "initialized" then none
  else some {
    metadata := none
    initialized := some [(path, some (.bool true))]
    texts := if y.textOf d path = "" ∧ content ≠ "" then [(path, {edit})] else []
    others := [] }

/-! ## What a document keeps -/

/-- No file the document may hold is dropped from it. -/
def Tidy (y : Yjs E) (d : Doc E) : Prop := ∀ path ∈ protectedPaths y d, isFilePath path = false

theorem merge_fileEdits (y : Yjs E) (d : Doc E) (u : Update E) :
    (y.merge d u).fileEdits = d.fileEdits ∪ u.fileEdits :=
  Finset.filter_union ..

omit [DecidableEq E] in
theorem fileEdits_subset (d : Doc E) : d.fileEdits ⊆ d.edits := Finset.filter_subset ..

/-- Compaction of a tidy document keeps every text edit of its files. -/
theorem Tidy.fileEdits_compacted {y : Yjs E} {d : Doc E} (h : Tidy y d) :
    (compacted y d).fileEdits = d.fileEdits := by
  unfold Doc.fileEdits compacted
  rw [Finset.filter_filter]
  refine Finset.filter_congr fun a _ => ?_
  constructor
  · rintro ⟨-, hfile⟩; exact hfile
  · intro hfile
    refine ⟨fun hp => ?_, hfile⟩
    rw [h a.1 hp] at hfile
    cases hfile

theorem isFilePath_of_isMark {entry : String × Value} (h : isMark entry = true) :
    isFilePath entry.1 = true := by
  unfold isMark at h
  rw [Bool.and_eq_true] at h
  exact h.1

theorem droppedFiles_of_checkFiles {content : String → String} :
    ∀ {paths : List String} {n b : Nat}, checkFiles content n b paths = true →
      ∀ path ∈ droppedFiles content n b paths, isFilePath path = false
  | [], _, _, _, path, hp => by cases hp
  | p :: ps, n, b, h, path, hp => by
    unfold checkFiles at h
    unfold droppedFiles at hp
    split at h
    · rename_i hempty
      rw [hempty.1, isFilePath_empty] at hp
      rcases List.mem_cons.1 hp with rfl | hp
      · exact isFilePath_empty
      · exact droppedFiles_of_checkFiles h path hp
    · simp only [Bool.and_eq_true, Bool.not_eq_true'] at h
      obtain ⟨⟨hfile, hquota⟩, hrest⟩ := h
      rw [if_pos hfile] at hp
      simp only [hquota, Bool.false_eq_true, if_false] at hp
      exact droppedFiles_of_checkFiles hrest path hp

/-- What the check accepts is tidy. -/
theorem tidy_of_checkCandidate {y : Yjs E} {d : Doc E} (h : checkCandidate y d = true) : Tidy y d := by
  unfold checkCandidate at h
  simp only [Bool.and_eq_true] at h
  obtain ⟨⟨⟨⟨-, hinit⟩, -⟩, hfiles⟩, -⟩ := h
  intro path hp
  rcases List.mem_append.1 hp with hp | hp
  · -- a checked document has no bad mark
    obtain ⟨entry, hentry, rfl⟩ := List.mem_map.1 hp
    obtain ⟨hmem, hbad⟩ := List.mem_filter.1 hentry
    cases hm : d.initialized with
    | none => rw [hm] at hmem; cases hmem
    | some m =>
      rw [hm] at hmem hinit
      simp only [Option.all_some, checkInitialized, Bool.and_eq_true, List.all_eq_true] at hinit
      rw [hinit.2 entry hmem] at hbad
      cases hbad
  · exact droppedFiles_of_checkFiles hfiles path hp

/-- Without the dropped files, and counting from no more, nothing is dropped. -/
theorem droppedFiles_filter {content content' : String → String} {keep : String → Bool} :
    ∀ {paths : List String} {n b n' b' : Nat}, n' ≤ n → b' ≤ b →
      (∀ p ∈ paths, keep p = true → p ∉ droppedFiles content n b paths) →
      (∀ p ∈ paths, keep p = true → content' p = content p) →
      droppedFiles content' n' b' (paths.filter keep) = []
  | [], _, _, _, _, _, _, _, _ => rfl
  | p :: ps, n, b, n', b', hn, hb, hkeep, hcontent => by
    have hcontent' : ∀ q ∈ ps, keep q = true → content' q = content q := fun q hq =>
      hcontent q (List.mem_cons_of_mem _ hq)
    by_cases hp : keep p = true
    · rw [List.filter_cons_of_pos hp]
      have hnot := hkeep p List.mem_cons_self hp
      unfold droppedFiles at hnot hkeep ⊢
      rw [hcontent p List.mem_cons_self hp]
      by_cases hfile : isFilePath p = true
      · rw [if_pos hfile] at hnot hkeep ⊢
        by_cases hquota : overQuota (n + 1) (content p).utf8ByteSize
            (b + (content p).utf8ByteSize) = true
        · rw [if_pos hquota] at hnot
          exact absurd List.mem_cons_self hnot
        · simp only [if_neg hquota] at hkeep
          have hquota' : ¬ overQuota (n' + 1) (content p).utf8ByteSize
              (b' + (content p).utf8ByteSize) = true := by
            unfold overQuota at hquota ⊢
            simp only [Bool.or_eq_true, decide_eq_true_eq, not_or, not_lt] at hquota ⊢
            omega
          simp only [if_neg hquota']
          exact droppedFiles_filter (by omega) (by omega)
            (fun q hq => hkeep q (List.mem_cons_of_mem _ hq)) hcontent'
      · rw [if_neg hfile] at hnot
        exact absurd List.mem_cons_self hnot
    · rw [List.filter_cons_of_neg hp]
      unfold droppedFiles at hkeep
      by_cases hfile : isFilePath p = true
      · simp only [if_pos hfile] at hkeep
        have hn' : n' ≤ n + 1 := by omega
        have hb' : b' ≤ b + (content p).utf8ByteSize := by omega
        refine droppedFiles_filter hn' hb' (fun q hq hk hq' => ?_) hcontent'
        refine hkeep q (List.mem_cons_of_mem _ hq) hk ?_
        split
        · exact List.mem_cons_of_mem _ hq'
        · exact hq'
      · simp only [if_neg hfile] at hkeep
        exact droppedFiles_filter hn hb (fun q hq hk hq' => hkeep q (List.mem_cons_of_mem _ hq) hk
          (List.mem_cons_of_mem _ hq')) hcontent'

theorem editsOf_compacted {y : Yjs E} {d : Doc E} {path : String} (h : path ∉ protectedPaths y d) :
    (compacted y d).editsOf path = d.editsOf path := by
  unfold Doc.editsOf compacted
  rw [Finset.filter_filter]
  congr 1
  refine Finset.filter_congr fun a _ => ?_
  constructor
  · rintro ⟨-, hp⟩; exact hp
  · intro hp
    exact ⟨by rw [hp]; exact h, hp⟩

/-- A compacted document has no bad mark. -/
theorem marks_compacted (y : Yjs E) (d : Doc E) :
    ((compacted y d).initialized.getD []).filter (fun entry => !isMark entry) = [] := by
  rw [List.filter_eq_nil_iff]
  intro entry hentry hbad
  cases hm : d.initialized with
  | none => simp [compacted, hm] at hentry
  | some m =>
    simp only [compacted, hm, Option.map_some, Option.getD_some, List.mem_filter, Bool.and_eq_true,
      Bool.not_eq_true', List.contains_eq_mem, decide_eq_false_iff_not] at hentry
    obtain ⟨hmem, ⟨hnot, -⟩, -⟩ := hentry
    -- a bad mark is one of the protected paths
    refine hnot (List.mem_append_left _ (List.mem_map.2 ⟨entry, ?_, rfl⟩))
    rw [hm]
    exact List.mem_filter.2 ⟨hmem, hbad⟩

theorem textOf_compacted {y : Yjs E} {d : Doc E} {path : String} (h : path ∈ (compacted y d).files) :
    y.textOf (compacted y d) path = y.textOf d path := by
  have hkept := (List.mem_filter.1 h).2
  simp only [Bool.and_eq_true, Bool.not_eq_true', List.contains_eq_mem, decide_eq_false_iff_not] at hkept
  unfold Yjs.textOf
  rw [editsOf_compacted hkept.1]

/-- A compacted document has no file to drop. -/
theorem droppedFiles_compacted (y : Yjs E) (d : Doc E) :
    droppedFiles (y.textOf (compacted y d)) 0 0 (compacted y d).files = [] := by
  refine @droppedFiles_filter (y.textOf d) _ _ _ 0 0 0 0 le_rfl le_rfl ?_ ?_
  · intro p hp hk hd
    simp only [Bool.and_eq_true, Bool.not_eq_true', List.contains_eq_mem,
      decide_eq_false_iff_not] at hk
    exact hk.1 (List.mem_append_right _ hd)
  · intro p hp hk
    exact textOf_compacted (List.mem_filter.2 ⟨hp, hk⟩)

/-- Every compacted document is tidy. -/
theorem tidy_compacted (y : Yjs E) (d : Doc E) : Tidy y (compacted y d) := by
  intro path hp
  unfold protectedPaths at hp
  rw [marks_compacted, droppedFiles_compacted] at hp
  cases hp

end Livetich.Code
