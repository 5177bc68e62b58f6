/-
What `encodeState` serves: the check `applyUpdate` makes against the compaction of a stored document. The compaction
keeps the files within their quotas, and as many marks of `file:initialized` as the stored document has.
-/
import Mathlib.Tactic.IntervalCases
import Livetich.Lib.Digits
import Livetich.Code.Durability

namespace Livetich.Code

/-! ## Bytes -/

theorem utf8ByteSize_ofList : ∀ l : List Char, (String.ofList l).utf8ByteSize = (l.map Char.utf8Size).sum
  | [] => rfl
  | c :: l => by
    rw [String.ofList_cons, String.utf8ByteSize_append, utf8ByteSize_ofList l, String.utf8ByteSize_singleton]
    simp

theorem utf8Size_le (c : Char) : c.utf8Size ≤ 3 * if c.toNat < 0x10000 then 1 else 2 := by
  split_ifs with h
  · unfold Char.utf8Size
    dsimp only
    have hval : c.val ≤ 65535 := UInt32.le_iff_toNat_le.2 (Nat.le_of_lt_succ h)
    split_ifs with h1 h2 h3
    · omega
    · omega
    · omega
    · exact absurd hval h3
  · have := c.utf8Size_le_four
    omega

/-- A UTF-16 unit takes at most three bytes. -/
theorem bytes_le (s : String) : s.utf8ByteSize ≤ 3 * jsLength s.toList := by
  have hsum : ∀ l : List Char, (l.map Char.utf8Size).sum ≤ 3 * jsLength l := by
    intro l
    unfold jsLength
    induction l with
    | nil => exact Nat.zero_le _
    | cons c l ih =>
      rw [List.map_cons, List.sum_cons, List.map_cons, List.sum_cons]
      have := utf8Size_le c
      omega
  rw [← String.ofList_toList (s := s), utf8ByteSize_ofList, String.toList_ofList]
  exact hsum s.toList

theorem jsLength_forwardSlashes (l : List Char) : jsLength (forwardSlashes l) = jsLength l := by
  unfold jsLength forwardSlashes
  rw [List.map_map]
  congr 1
  refine List.map_congr_left fun c _ => ?_
  show (if (if c = '\\' then '/' else c).toNat < 0x10000 then 1 else 2) = _
  by_cases hc : c = '\\'
  · rw [if_pos hc, hc]
    rfl
  · rw [if_neg hc]

theorem path_bytes {path : String} (h : isFilePath path = true) : path.utf8ByteSize ≤ 1536 := by
  unfold isFilePath isSafeDocumentPath at h
  simp only [Bool.and_eq_true, decide_eq_true_eq] at h
  obtain ⟨⟨⟨⟨⟨-, hlen⟩, -⟩, -⟩, -⟩, -⟩ := h
  rw [jsLength_forwardSlashes] at hlen
  have := bytes_le path
  omega

/-! ## A document written anew -/

variable {E : Type} [DecidableEq E]

/-- What a document holds: the texts and the entries of the maps. -/
def Doc.items (d : Doc E) : Nat := d.files.length + (d.metadata.getD []).length + (d.initialized.getD []).length

def entryBytes (entry : String × Value) : Nat := entry.1.utf8ByteSize + valueBytes entry.2

def fileBytes (content : String → String) (path : String) : Nat := path.utf8ByteSize + (content path).utf8ByteSize

def visibleBytes (y : Yjs E) (d : Doc E) : Nat :=
  (d.files.map (fileBytes (y.textOf d))).sum + ((d.metadata.getD []).map entryBytes).sum +
    ((d.initialized.getD []).map entryBytes).sum

/-- An encoded document written anew has one struct for each text and entry, with its root and key. -/
def Yjs.Compact (y : Yjs E) : Prop :=
  ∀ d : Doc E, d.surplus = 0 → d.others = [] → y.encodedBytes d ≤ 64 * (1 + d.items) + visibleBytes y d

/-- Where nothing is dropped, the files stay within the quotas. -/
theorem quotas_of_droppedFiles {content : String → String} :
    ∀ {paths : List String} {n b : Nat}, droppedFiles content n b paths = [] → n ≤ maxCodeFiles →
      b ≤ maxCodeTextBytes → checkFiles content n b paths = true ∧ n + paths.length ≤ maxCodeFiles ∧
        b + (paths.map fun p => (content p).utf8ByteSize).sum ≤ maxCodeTextBytes ∧ ∀ p ∈ paths, isFilePath p = true
  | [], n, b, _, hn, hb => ⟨rfl, hn, hb, by rintro p ⟨⟩⟩
  | path :: paths, n, b, h, hn, hb => by
    unfold droppedFiles at h
    by_cases hfile : isFilePath path = true
    · rw [if_pos hfile] at h
      by_cases hquota : overQuota (n + 1) (content path).utf8ByteSize (b + (content path).utf8ByteSize) = true
      · rw [if_pos hquota] at h
        cases h
      · rw [if_neg hquota] at h
        have hbounds : n + 1 ≤ maxCodeFiles ∧ b + (content path).utf8ByteSize ≤ maxCodeTextBytes := by
          unfold overQuota at hquota
          simp only [Bool.or_eq_true, decide_eq_true_eq, not_or, not_lt] at hquota
          exact ⟨hquota.1.1, hquota.2⟩
        obtain ⟨hcheck, hlength, hsum, hfiles⟩ := quotas_of_droppedFiles h hbounds.1 hbounds.2
        refine ⟨?_, ?_, ?_, ?_⟩
        · have hne : ¬(path = "" ∧ content path = "") := by
            rintro ⟨rfl, -⟩
            rw [isFilePath_empty] at hfile
            cases hfile
          unfold checkFiles
          rw [if_neg hne]
          simp only [Bool.and_eq_true, Bool.not_eq_true', Bool.not_eq_true] at hquota ⊢
          exact ⟨⟨hfile, hquota⟩, hcheck⟩
        · rw [List.length_cons]
          omega
        · rw [List.map_cons, List.sum_cons]
          omega
        · rintro p hp
          rcases List.mem_cons.1 hp with rfl | hp
          · exact hfile
          · exact hfiles p hp
    · rw [if_neg hfile] at h
      cases h

theorem sum_le_of_all {α : Type} {f : α → Nat} {bound : Nat} : ∀ {l : List α}, (∀ a ∈ l, f a ≤ bound) →
    (l.map f).sum ≤ bound * l.length
  | [], _ => Nat.le_refl _
  | a :: l, h => by
    rw [List.map_cons, List.sum_cons, List.length_cons, Nat.mul_succ]
    have := h a List.mem_cons_self
    have := sum_le_of_all (l := l) fun b hb => h b (List.mem_cons_of_mem _ hb)
    omega

theorem sum_fileBytes (content : String → String) : ∀ paths : List String,
    (paths.map (fileBytes content)).sum =
      (paths.map fun p => p.utf8ByteSize).sum + (paths.map fun p => (content p).utf8ByteSize).sum
  | [] => rfl
  | path :: paths => by
    simp only [List.map_cons, List.sum_cons]
    rw [sum_fileBytes content paths]
    unfold fileBytes
    omega

theorem sanitize_forced (y : Yjs E) (d : Doc E) : sanitizeProtectedBuffers y d true = (compacted y d, true) := by
  unfold sanitizeProtectedBuffers
  rw [Bool.not_true, Bool.and_false]
  rfl

/-- Compaction makes a document the check accepts, unless too many marks are left. -/
theorem check_compacted {y : Yjs E} (hy : y.Compact) {d : Doc E}
    (hmetadata : (compacted y d).metadata.all checkMetadata = true)
    (hmarks : ((compacted y d).initialized.getD []).length ≤ maxCodeFiles) :
    checkCandidate y (compacted y d) = true := by
  obtain ⟨hfiles, hcount, hsum, hpaths⟩ :=
    quotas_of_droppedFiles (droppedFiles_compacted y d) (Nat.zero_le _) (Nat.zero_le _)
  have hall : ∀ entry ∈ (compacted y d).initialized.getD [], isMark entry = true := by
    intro entry hentry
    have hnone := List.filter_eq_nil_iff.1 (marks_compacted y d) entry hentry
    simpa using hnone
  have hinit : (compacted y d).initialized.all checkInitialized = true := by
    cases hm : (compacted y d).initialized with
    | none => rfl
    | some m =>
      rw [hm] at hall hmarks
      unfold checkInitialized
      simp only [Option.all_some, Bool.and_eq_true, decide_eq_true_eq, List.all_eq_true]
      exact ⟨hmarks, hall⟩
  have hmeta : ((compacted y d).metadata.getD []).length ≤ 8 ∧
      (((compacted y d).metadata.getD []).map entryBytes).sum ≤ 256 := by
    cases hm : (compacted y d).metadata with
    | none => exact ⟨Nat.zero_le _, Nat.zero_le _⟩
    | some m =>
      rw [hm] at hmetadata
      unfold checkMetadata at hmetadata
      simp only [Option.all_some, Bool.and_eq_true, decide_eq_true_eq] at hmetadata
      exact ⟨hmetadata.1.1, hmetadata.2⟩
  have hmarkBytes : (((compacted y d).initialized.getD []).map entryBytes).sum ≤ 1536 * 500 := by
    have hone : ∀ entry ∈ (compacted y d).initialized.getD [], entryBytes entry ≤ 1536 := by
      rintro ⟨path, value⟩ hentry
      have hmark := hall _ hentry
      have hvalue : value = .bool true := by
        unfold isMark at hmark
        rw [Bool.and_eq_true, beq_iff_eq] at hmark
        exact hmark.2
      have := path_bytes (isFilePath_of_isMark hmark)
      rw [hvalue]
      exact this
    have := sum_le_of_all hone
    unfold maxCodeFiles at hmarks
    omega
  have hpathBytes : ((compacted y d).files.map fun p => p.utf8ByteSize).sum ≤ 1536 * 500 := by
    have := sum_le_of_all fun p hp => path_bytes (hpaths p hp)
    unfold maxCodeFiles at hcount
    omega
  have hencoded := hy (compacted y d) rfl rfl
  have hbytes : y.encodedBytes (compacted y d) ≤ maxCodeDocBytes := by
    unfold visibleBytes at hencoded
    rw [sum_fileBytes] at hencoded
    unfold Doc.items at hencoded
    unfold maxCodeFiles at hcount hmarks
    unfold maxCodeTextBytes at hsum
    unfold maxCodeDocBytes
    omega
  unfold checkCandidate
  simp only [Bool.and_eq_true, decide_eq_true_eq]
  exact ⟨⟨⟨⟨hmetadata, hinit⟩, rfl⟩, hfiles⟩, hbytes⟩

/-- What the check accepts stays accepted when it is compacted. -/
theorem check_again {y : Yjs E} (hy : y.Compact) {d : Doc E} (h : checkCandidate y d = true) :
    checkCandidate y (compacted y d) = true := by
  unfold checkCandidate at h
  simp only [Bool.and_eq_true] at h
  obtain ⟨⟨⟨⟨hmetadata, hinit⟩, -⟩, -⟩, -⟩ := h
  refine check_compacted hy ?_ ?_
  · show (d.metadata.map fun m => m.filter isLanguage).all checkMetadata = true
    cases hm : d.metadata with
    | none => rfl
    | some m =>
      rw [hm, Option.all_some] at hmetadata
      rw [Option.map_some, Option.all_some]
      have hall : m.filter isLanguage = m := by
        unfold checkMetadata at hmetadata
        simp only [Bool.and_eq_true] at hmetadata
        exact List.filter_eq_self.2 (List.all_eq_true.1 hmetadata.1.2)
      rw [hall]
      exact hmetadata
  · unfold compacted
    cases hm : d.initialized with
    | none => exact Nat.zero_le _
    | some m =>
      rw [hm, Option.all_some] at hinit
      unfold checkInitialized at hinit
      simp only [Bool.and_eq_true, decide_eq_true_eq] at hinit
      rw [Option.map_some, Option.getD_some]
      exact Nat.le_trans (List.length_filter_le _ _) hinit.1

theorem check_empty {y : Yjs E} (hy : y.Compact) : checkCandidate y (compacted y Doc.empty) = true :=
  check_compacted hy rfl (Nat.zero_le _)

/-! ## Stored documents -/

/-- A document as Yjs decodes it: a shared map has one entry a key. -/
structure Snapshot (E : Type) where
  doc : Doc E
  metadata : ∀ m, doc.metadata = some m → (m.map (·.1)).Nodup
  initialized : ∀ m, doc.initialized = some m → (m.map (·.1)).Nodup

/-- The good marks of files that stay within the quotas. -/
def goodMarks (y : Yjs E) (d : Doc E) : MapEntries :=
  (d.initialized.getD []).filter fun entry =>
    isMark entry && !(droppedFiles (y.textOf d) 0 0 d.files).contains entry.1

/-- The marks that a compaction leaves fit in the document. -/
def marksFit (y : Yjs E) (d : Doc E) : Bool := (goodMarks y d).length ≤ maxCodeFiles

theorem initialized_compacted (y : Yjs E) (n : Snapshot E) :
    (compacted y n.doc).initialized.getD [] = goodMarks y n.doc := by
  unfold goodMarks compacted
  cases hm : n.doc.initialized with
  | none => rfl
  | some m =>
    rw [Option.map_some, Option.getD_some, Option.getD_some]
    refine List.filter_congr fun entry hentry => Bool.eq_iff_iff.2 ?_
    have hbad : entry.1 ∈ (m.filter fun entry => !isMark entry).map (·.1) ↔ isMark entry = false := by
      constructor
      · intro hmem
        obtain ⟨other, hother, hkey⟩ := List.mem_map.1 hmem
        obtain ⟨hmem, hnot⟩ := List.mem_filter.1 hother
        rw [← List.inj_on_of_nodup_map (n.initialized m hm) hmem hentry hkey]
        simpa using hnot
      · intro hnot
        exact List.mem_map.2 ⟨entry, List.mem_filter.2 ⟨hentry, by rw [hnot]; rfl⟩, rfl⟩
    have hprotected : entry.1 ∈ protectedPaths y n.doc ↔
        isMark entry = false ∨ entry.1 ∈ droppedFiles (y.textOf n.doc) 0 0 n.doc.files := by
      unfold protectedPaths
      rw [hm, Option.getD_some, List.mem_append, hbad]
    simp only [Bool.and_eq_true, Bool.not_eq_true', List.contains_eq_mem, decide_eq_false_iff_not, hprotected, not_or,
      Bool.not_eq_false]
    constructor
    · rintro ⟨⟨⟨hmark, hkept⟩, -⟩, -⟩
      exact ⟨hmark, hkept⟩
    · rintro ⟨hmark, hkept⟩
      have hparts := hmark
      unfold isMark isFilePath at hparts
      simp only [Bool.and_eq_true] at hparts
      exact ⟨⟨⟨hmark, hkept⟩, hparts.1.1⟩, hparts.2⟩

/-- One language name is left, and it is short. -/
theorem metadata_compacted (y : Yjs E) (n : Snapshot E) : (compacted y n.doc).metadata.all checkMetadata = true := by
  show (n.doc.metadata.map fun m => m.filter isLanguage).all checkMetadata = true
  cases hm : n.doc.metadata with
  | none => rfl
  | some m =>
    rw [Option.map_some, Option.all_some]
    have hlang : ∀ entry ∈ m.filter isLanguage, entry.1 = "lang" ∧ entryBytes entry ≤ 100 := by
      rintro ⟨key, value⟩ hentry
      have his := (List.mem_filter.1 hentry).2
      cases value with
      | text s =>
        unfold isLanguage at his
        simp only [Bool.and_eq_true, beq_iff_eq, decide_eq_true_eq] at his
        obtain ⟨rfl, hlen⟩ := his
        have hname : "lang".utf8ByteSize = 4 := rfl
        have := bytes_le s
        refine ⟨rfl, ?_⟩
        show "lang".utf8ByteSize + s.utf8ByteSize ≤ 100
        omega
      | bool b => cases his
      | other => cases his
    have hnodup : ((m.filter isLanguage).map (·.1)).Nodup := (n.metadata m hm).sublist (List.filter_sublist.map _)
    have hone : (m.filter isLanguage).length ≤ 1 := by
      cases hf : m.filter isLanguage with
      | nil => exact Nat.zero_le _
      | cons a rest =>
        cases rest with
        | nil => exact Nat.le_refl _
        | cons b rest =>
          rw [hf] at hlang hnodup
          have ha := (hlang a List.mem_cons_self).1
          have hb := (hlang b (List.mem_cons_of_mem _ List.mem_cons_self)).1
          rw [List.map_cons, List.map_cons, ha, hb] at hnodup
          exact absurd List.mem_cons_self (List.nodup_cons.1 hnodup).1
    have hsum := sum_le_of_all fun entry hentry => (hlang entry hentry).2
    unfold checkMetadata
    simp only [Bool.and_eq_true, decide_eq_true_eq, List.all_eq_true]
    refine ⟨⟨by omega, fun entry hentry => (List.mem_filter.1 hentry).2⟩, ?_⟩
    show ((m.filter isLanguage).map entryBytes).sum ≤ 256
    omega

/-- A stored document is accepted once it is compacted exactly when its marks fit. -/
theorem check_snapshot {y : Yjs E} (hy : y.Compact) (n : Snapshot E) :
    checkCandidate y (compacted y n.doc) = true ↔ marksFit y n.doc = true := by
  unfold marksFit
  rw [decide_eq_true_eq, ← initialized_compacted]
  constructor
  · intro h
    unfold checkCandidate at h
    simp only [Bool.and_eq_true] at h
    obtain ⟨⟨⟨⟨-, hinit⟩, -⟩, -⟩, -⟩ := h
    cases hm : (compacted y n.doc).initialized with
    | none => exact Nat.zero_le _
    | some m =>
      rw [hm, Option.all_some] at hinit
      unfold checkInitialized at hinit
      simp only [Bool.and_eq_true, decide_eq_true_eq] at hinit
      exact hinit.1
  · exact check_compacted hy (metadata_compacted y n)

/-! ## The service -/

namespace DocService

open TransSys

omit [DecidableEq E] in
/-- `encodeState`, before it is encoded. -/
def encodeState (s : State E) : Option (Doc E) := s.registered.map fun p => p.2.doc

variable (y : Yjs E)

/-- As `step`, with `release` called whether a retain is held or not. -/
def anyStep (s : State E) : Event E → Option (State E)
  | .release i => if (s.tasks.get i).isNone then some (release y { s with held := s.held - 1 } i) else none
  | e => step y s e

/-- `applyUpdate` returns false, or `seedFileContent` null. -/
def rejected (s : State E) : Event E → Bool
  | .applyUpdate u => !accepts y s u
  | .seedFileContent path content edit => (seedOf y s path content edit).all fun u => !accepts y s u
  | _ => false

/-- Every document kept is accepted, and every document stored is accepted once it is compacted. -/
structure Valid (s : State E) : Prop where
  heap : ∀ e x, s.heap e = some x → checkCandidate y x.doc = true
  stored : ∀ d, s.snapshot = some d → checkCandidate y (compacted y d) = true
  read : ∀ e d, s.loading = some (e, .read (some d)) → checkCandidate y (compacted y d) = true
  puts : ∀ i caller e body, s.tasks.get i = some (.put caller e body) → checkCandidate y body = true

variable {y}

theorem Valid.setEntry {s : State E} {e : Nat} {x : CodeEntry E} (h : Valid y s) (hx : checkCandidate y x.doc = true) :
    Valid y (s.setEntry e x) := by
  refine ⟨fun d z hz => ?_, h.stored, h.read, h.puts⟩
  rcases Slots.put_eq_some hz with ⟨-, hnew⟩ | ⟨-, hold⟩
  · cases hnew
    exact hx
  · exact h.heap d z hold

theorem Valid.goto {s : State E} {i : Nat} {t : Option (Task E)} (h : Valid y s)
    (ht : ∀ caller e body, t = some (.put caller e body) → checkCandidate y body = true) : Valid y (s.goto i t) := by
  refine ⟨h.heap, h.stored, h.read, fun j caller e body hj => ?_⟩
  rw [show (s.goto i t).tasks.get = _ from Pool.get_put _ _ _] at hj
  rcases Slots.put_eq_some hj with ⟨-, hnew⟩ | ⟨-, hold⟩
  · exact ht caller e body hnew
  · exact h.puts j caller e body hold

theorem Valid.ends {s : State E} {i : Nat} (h : Valid y s) : Valid y (s.goto i none) :=
  h.goto (by rintro caller e body ⟨⟩)

theorem Valid.retain {s : State E} (h : Valid y s) (i : Nat) : Valid y (retain s i) := by
  unfold DocService.retain
  split
  · rename_i e x hreg
    have hset : Valid y (s.setEntry e { x with clients := x.clients + 1 }) :=
      h.setEntry (h.heap e x (State.registered_eq_some.1 hreg).2)
    exact ⟨hset.heap, hset.stored, hset.read, hset.puts⟩
  · split
    · exact h.goto (by rintro caller e body ⟨⟩)
    · have hloading : Valid y { s with loading := some (s.nextEntry, .reading), nextEntry := s.nextEntry + 1 } := by
        refine ⟨h.heap, h.stored, ?_, h.puts⟩
        rintro e d ⟨⟩
      exact hloading.goto (by rintro caller e body ⟨⟩)

theorem Valid.release {s : State E} (hy : y.Compact) (h : Valid y s) (i : Nat) : Valid y (release y s i) := by
  unfold DocService.release
  split
  · rename_i e x hreg
    have hx : checkCandidate y x.doc = true := h.heap e x (State.registered_eq_some.1 hreg).2
    dsimp only
    split_ifs
    · exact h.setEntry hx
    · have hcompacted : checkCandidate y (sanitizeProtectedBuffers y x.doc true).1 = true := by
        rw [sanitize_forced]
        exact check_again hy hx
      have hset : Valid y (s.setEntry e { x with
          doc := (sanitizeProtectedBuffers y x.doc true).1
          dirty := x.dirty || (sanitizeProtectedBuffers y x.doc true).2
          clients := x.clients - 1
          destroyed := false }) := h.setEntry hcompacted
      refine hset.goto fun caller e' body heq => ?_
      cases heq
      exact hcompacted
  · exact h

theorem Valid.applyUpdate {s : State E} (h : Valid y s) (u : Update E) : Valid y (applyUpdate y s u) := by
  unfold DocService.applyUpdate
  split
  · rename_i e x hreg
    split_ifs with hcheck
    · have hset : Valid y (s.setEntry e { x with doc := y.merge x.doc u, dirty := true, destroyed := false }) :=
        h.setEntry hcheck
      exact ⟨hset.heap, hset.stored, hset.read, hset.puts⟩
    · exact h
  · exact h

theorem Valid.flushDirty {s : State E} (h : Valid y s) (i : Nat) : Valid y (flushDirty s i) := by
  unfold DocService.flushDirty
  split
  · rename_i e x hreg
    split
    · refine h.goto fun caller e' body heq => ?_
      cases heq
      exact h.heap e x (State.registered_eq_some.1 hreg).2
    · exact h
  · exact h

theorem Valid.advance {s : State E} (hy : y.Compact) (h : Valid y s) : Valid y (advance y s) := by
  unfold DocService.advance
  split
  · refine ⟨h.heap, h.stored, fun e d heq => ?_, h.puts⟩
    simp only [Option.some.injEq, Prod.mk.injEq, Load.read.injEq] at heq
    exact h.stored d heq.2
  · rename_i e snapshot hl
    have hcompacted : checkCandidate y (sanitizeProtectedBuffers y (snapshot.getD Doc.empty) true).1 = true := by
      rw [sanitize_forced]
      cases snapshot with
      | none => exact check_empty hy
      | some d => exact h.read e d hl
    have hset : Valid y (s.setEntry e ⟨(sanitizeProtectedBuffers y (snapshot.getD Doc.empty) true).1,
        (sanitizeProtectedBuffers y (snapshot.getD Doc.empty) true).2, 0, false⟩) := h.setEntry hcompacted
    refine ⟨hset.heap, hset.stored, ?_, hset.puts⟩
    rintro e d ⟨⟩
  · refine ⟨h.heap, h.stored, ?_, h.puts⟩
    rintro e d ⟨⟩
  · exact h

/-- What a put stores has been accepted. -/
theorem Valid.stores {s : State E} {i : Nat} {caller : Flusher} {e : Nat} {body : Doc E} (hy : y.Compact)
    (h : Valid y s) (ht : s.tasks.get i = some (.put caller e body)) : Valid y { s with snapshot := some body } := by
  refine ⟨h.heap, fun d hd => ?_, h.read, h.puts⟩
  cases hd
  exact check_again hy (h.puts i caller e body ht)

theorem Valid.resume {s s' : State E} {i : Nat} {t : Task E} (hy : y.Compact) (h : Valid y s)
    (ht : s.tasks.get i = some t) (hs : resume s i t = some s') : Valid y s' := by
  cases t with
  | retain e =>
    simp only [DocService.resume, Option.ite_none_left_eq_some, Option.some.injEq] at hs
    obtain ⟨-, rfl⟩ := hs
    split
    · rename_i x hx
      have hset : Valid y (s.setEntry e { x with clients := x.clients + 1 }) := h.setEntry (h.heap e x hx)
      have hcounted : Valid y (s.countIn e x) := ⟨hset.heap, hset.stored, hset.read, hset.puts⟩
      exact hcounted.ends
    · exact h.ends
  | put caller e body =>
    cases hs
    exact (h.stores hy ht).goto (by rintro caller e body ⟨⟩)
  | flushed caller e stored =>
    cases caller with
    | release =>
      obtain ⟨x, hx, rfl⟩ := Option.map_eq_some_iff.1 hs
      have hset : Valid y (s.setEntry e { x with dirty := x.dirty && !stored, destroyed := true }) :=
        h.setEntry (h.heap e x hx)
      have hdeleted : Valid y { s.setEntry e { x with dirty := x.dirty && !stored, destroyed := true } with
        docs := none } := ⟨hset.heap, hset.stored, hset.read, hset.puts⟩
      exact hdeleted.ends
    | timer =>
      obtain ⟨x, hx, rfl⟩ := Option.map_eq_some_iff.1 hs
      have hset : Valid y (s.setEntry e { x with dirty := x.dirty && !stored }) := h.setEntry (h.heap e x hx)
      exact hset.ends

theorem Valid.step {s s' : State E} {e : Event E} (hy : y.Compact) (h : Valid y s) (hs : anyStep y s e = some s') :
    Valid y s' := by
  cases e with
  | retain i =>
    unfold anyStep DocService.step at hs
    simp only [Option.ite_none_right_eq_some, Option.some.injEq] at hs
    obtain ⟨-, rfl⟩ := hs
    exact h.retain i
  | release i =>
    unfold anyStep at hs
    simp only [Option.ite_none_right_eq_some, Option.some.injEq] at hs
    obtain ⟨-, rfl⟩ := hs
    have hheld : Valid y { s with held := s.held - 1 } := ⟨h.heap, h.stored, h.read, h.puts⟩
    exact hheld.release hy i
  | applyUpdate u =>
    cases hs
    exact h.applyUpdate u
  | seedFileContent path content edit =>
    cases hs
    unfold DocService.seedFileContent
    split
    · exact h.applyUpdate _
    · exact h
  | tick i =>
    unfold anyStep DocService.step at hs
    simp only [Option.ite_none_right_eq_some, Option.some.injEq] at hs
    obtain ⟨-, rfl⟩ := hs
    exact h.flushDirty i
  | load =>
    obtain ⟨l, -, rfl⟩ := Option.map_eq_some_iff.1 hs
    exact h.advance hy
  | loadFails =>
    unfold anyStep DocService.step at hs
    dsimp only at hs
    split at hs
    · cases hs
      refine ⟨h.heap, h.stored, ?_, h.puts⟩
      rintro e d ⟨⟩
    · cases hs
  | resume i =>
    obtain ⟨t, ht, hs⟩ := Option.bind_eq_some_iff.1 hs
    exact h.resume hy ht hs
  | putFails i stored =>
    unfold anyStep DocService.step at hs
    dsimp only at hs
    split at hs
    · rename_i caller e body ht
      cases hs
      have hstored : Valid y { s with snapshot := if stored then some body else s.snapshot } := by
        cases stored with
        | true => exact h.stores hy ht
        | false => exact h
      exact hstored.goto (by rintro caller e body ⟨⟩)
    · cases hs

theorem valid_init (snapshot : Option (Doc E)) (h : ∀ d, snapshot = some d → checkCandidate y (compacted y d) = true) :
    Valid y (init snapshot) := by
  refine ⟨?_, h, ?_, ?_⟩
  · rintro e x ⟨⟩
  · rintro e d ⟨⟩
  · rintro i caller e body ⟨⟩

/-- Every document served is accepted. -/
theorem Valid.served {s : State E} {d : Doc E} (h : Valid y s) (hd : encodeState s = some d) :
    checkCandidate y d = true := by
  obtain ⟨⟨e, x⟩, hreg, rfl⟩ := Option.map_eq_some_iff.1 hd
  exact h.heap e x (State.registered_eq_some.1 hreg).2

theorem applyUpdate_rejected {s : State E} {u : Update E} (h : accepts y s u = false) : applyUpdate y s u = s := by
  unfold DocService.applyUpdate
  unfold accepts at h
  split
  · rename_i e x hreg
    rw [hreg, Option.any_some] at h
    rw [h]
    rfl
  · rfl

theorem step_rejected {s s' : State E} {e : Event E} (h : rejected y s e = true) (hs : anyStep y s e = some s') :
    s' = s := by
  cases e with
  | applyUpdate u =>
    cases hs
    exact applyUpdate_rejected (by simpa [rejected] using h)
  | seedFileContent path content edit =>
    cases hs
    unfold DocService.seedFileContent
    unfold rejected at h
    dsimp only at h
    split
    · rename_i u hu
      rw [hu, Option.all_some, Bool.not_eq_true'] at h
      exact applyUpdate_rejected h
    · rfl
  | _ => cases h

variable (y) in
/-- The first document served is the stored one, compacted. -/
theorem first_served (snapshot : Option (Doc E)) :
    (run (anyStep y) (init snapshot) [.retain 0, .load, .load]).map encodeState =
      some (some (compacted y (snapshot.getD Doc.empty))) := by
  have hserved : (run (anyStep y) (init snapshot) [.retain 0, .load, .load]).map encodeState =
      some (some (sanitizeProtectedBuffers y (snapshot.getD Doc.empty) true).1) := rfl
  rw [hserved, sanitize_forced]

variable (y) in
/-- Over any stored document, the document loaded and every document served in any run are accepted by the check of
`applyUpdate`, and a rejected change leaves the one served, exactly when the marks of the stored document fit. -/
theorem served_valid (hy : y.Compact) (snapshot : Option (Snapshot E)) :
    ((∀ n, snapshot = some n → checkCandidate y (sanitizeProtectedBuffers y n.doc true).1 = true) ∧
      ∀ es s, run (anyStep y) (init (snapshot.map (·.doc))) es = some s →
        (∀ d, encodeState s = some d → checkCandidate y d = true) ∧
        ∀ e s', rejected y s e = true → anyStep y s e = some s' → encodeState s' = encodeState s) ↔
      ∀ n, snapshot = some n → marksFit y n.doc = true := by
  constructor
  · rintro ⟨hload, -⟩ n hn
    have hcheck := hload n hn
    rw [sanitize_forced] at hcheck
    exact (check_snapshot hy n).1 hcheck
  · intro hfit
    refine ⟨fun n hn => ?_, fun es s h => ?_⟩
    · rw [sanitize_forced]
      exact (check_snapshot hy n).2 (hfit n hn)
    · have hvalid : Valid y s := by
        refine TransSys.run_keeps (fun _ _ _ hv hs => hv.step hy hs) (valid_init _ fun d hd => ?_) h
        obtain ⟨n, hn, rfl⟩ := Option.map_eq_some_iff.1 hd
        exact (check_snapshot hy n).2 (hfit n hn)
      refine ⟨fun d hd => hvalid.served hd, fun e s' hrejected hs => ?_⟩
      rw [step_rejected hrejected hs]

namespace Example

/-- Documents of letters, encoded struct by struct. -/
def written : Yjs Nat := { letters with
  encodedBytes := fun d => 64 * (1 + d.items) + visibleBytes letters d + 16 * d.surplus }

theorem written_compact : written.Compact := by
  intro d hsurplus _
  have hbytes : visibleBytes written d = visibleBytes letters d := rfl
  show 64 * (1 + d.items) + visibleBytes letters d + 16 * d.surplus ≤ _
  rw [hsurplus, hbytes]
  exact Nat.le_refl _

/-- A document of an earlier release, with a secret in it. -/
def legacy : Snapshot Nat where
  doc := {
    metadata := some [("lang", .text "ts"), ("theme", .text "dark")]
    initialized := some [("main.ts", .bool true), (".env", .bool true)]
    files := ["main.ts", ".env"]
    edits := {("main.ts", 1), (".env", 2)}
    others := ["cursors"]
    surplus := 3 }
  metadata := by
    rintro m ⟨⟩
    decide
  initialized := by
    rintro m ⟨⟩
    decide

/-- It is loaded and edited; an edit to the secret is rejected. -/
def reopened : List (Event Nat) :=
  join 0 ++ [type 3, .applyUpdate ⟨none, none, [(".env", {4})], []⟩, .release 1]

/-- Each protected name has a character that is no digit. -/
theorem protected_not_digits :
    ∀ s ∈ protectedSegments ++ templateNames ++ protectedNames ++ protectedPrefixes ++ protectedSuffixes,
      s.toList.all Lib.isDigit = false := by decide

theorem digit_cases {c : Char} (h : Lib.isDigit c = true) :
    c ≠ '\\' ∧ c ≠ '/' ∧ c ≠ ':' ∧ c ≠ '.' ∧ c.toNat < 0x10000 ∧ lowerChar c = [c] := by
  unfold Lib.isDigit at h
  simp only [Bool.and_eq_true, decide_eq_true_eq] at h
  obtain ⟨hlo, hhi⟩ := h
  rw [show '0'.toNat = 48 from rfl] at hlo
  rw [show '9'.toNat = 57 from rfl] at hhi
  rw [← Char.ofNat_toNat c]
  generalize c.toNat = n at hlo hhi
  interval_cases n <;> decide

theorem isFilePath_digits {l : List Char} (hne : l ≠ []) (hlen : l.length ≤ 512) (h : ∀ c ∈ l, Lib.isDigit c = true) :
    isFilePath (String.ofList l) = true := by
  have hslashes : forwardSlashes l = l := by
    unfold forwardSlashes
    refine (List.map_congr_left fun c hc => if_neg (digit_cases (h c hc)).1).trans (List.map_id l)
  have hlower : toLowerCase l = l := by
    unfold toLowerCase
    rw [List.flatMap_congr fun c hc => (digit_cases (h c hc)).2.2.2.2.2]
    exact List.flatMap_singleton' l
  have hsplit : l.splitOn '/' = [l] :=
    List.splitOn_eq_singleton fun hmem => (digit_cases (h _ hmem)).2.1 rfl
  have hunits : jsLength l = l.length := by
    unfold jsLength
    rw [List.map_congr_left fun c hc => if_pos (digit_cases (h c hc)).2.2.2.2.1, List.map_const', List.sum_replicate]
    simp
  have hother : ∀ s ∈ protectedSegments ++ templateNames ++ protectedNames ++ protectedPrefixes ++ protectedSuffixes,
      ¬ ∀ c ∈ s.toList, c ∈ l := by
    intro s hs hall
    have hnot := protected_not_digits s hs
    rw [List.all_eq_true.2 fun c hc => h c (hall c hc)] at hnot
    cases hnot
  have hsafe : isSafeDocumentPath (String.ofList l) = true := by
    have hhead : l.head? ≠ some '/' := by
      intro hhead
      exact (digit_cases (h _ (List.mem_of_head? hhead))).2.1 rfl
    have hdrive : hasDrive l = false := by
      unfold hasDrive
      split
      · rename_i c rest
        exact absurd rfl (digit_cases (h ':' (by simp))).2.2.1
      · rfl
    have hdot : ∀ part : List Char, part.all Lib.isDigit = false → l ≠ part := by
      rintro part hpart rfl
      rw [List.all_eq_true.2 h] at hpart
      cases hpart
    unfold isSafeDocumentPath
    rw [String.toList_ofList, hslashes]
    dsimp only
    rw [hunits, hsplit, hdrive]
    simp [hlen, hhead, hne, hdot ['.'] rfl, hdot ['.', '.'] rfl, List.length_pos_iff]
  have hequal : ∀ names : List String, (∀ s ∈ names, s ∈ protectedSegments ++ templateNames ++ protectedNames ++
      protectedPrefixes ++ protectedSuffixes) → names.any (fun s => s.toList == l) = false := by
    intro names hnames
    rw [List.any_eq_false]
    intro s hs heq
    refine hother s (hnames s hs) fun c hc => ?_
    rw [← beq_iff_eq.1 heq]
    exact hc
  have hprotected : isProtectedCodePath (String.ofList l) = false := by
    have hprefix : protectedPrefixes.any (fun s => s.toList.isPrefixOf l) = false := by
      rw [List.any_eq_false]
      intro s hs hpre
      exact hother s (by simp [hs]) fun c hc => (List.isPrefixOf_iff_prefix.1 hpre).subset hc
    have hsuffix : protectedSuffixes.any (fun s => s.toList.isSuffixOf l) = false := by
      rw [List.any_eq_false]
      intro s hs hsuf
      exact hother s (by simp [hs]) fun c hc => (List.isSuffixOf_iff_suffix.1 hsuf).subset hc
    unfold isProtectedCodePath
    rw [String.toList_ofList, hslashes, hlower, hsplit]
    have hsegments := hequal protectedSegments fun s hs => by simp [hs]
    have htemplates := hequal templateNames fun s hs => by simp [hs]
    have hnames := hequal protectedNames fun s hs => by simp [hs]
    simp [hsegments, htemplates, hnames, hprefix, hsuffix]
  unfold isFilePath
  rw [hsafe, hprotected]
  rfl

def marks : MapEntries := (List.range 501).map fun i => (String.ofList (Lib.digits4 i), .bool true)

theorem marks_nodup : (marks.map (·.1)).Nodup := by
  unfold marks
  rw [List.map_map]
  refine List.Nodup.map_on (fun i hi j hj h => ?_) List.nodup_range
  have hdigits : Lib.digits4 i = Lib.digits4 j := String.ofList_injective h
  unfold Lib.digits4 at hdigits
  simp only [List.cons.injEq, and_true] at hdigits
  have hi' := Lib.value_digits4 (Nat.lt_trans (List.mem_range.1 hi) (by decide : 501 < 10000))
  have hj' := Lib.value_digits4 (Nat.lt_trans (List.mem_range.1 hj) (by decide : 501 < 10000))
  rw [hdigits.1, hdigits.2.1, hdigits.2.2.1, hdigits.2.2.2] at hi'
  exact hi'.symm.trans hj'

/-- A document with a mark too many. -/
def crowded : Snapshot Nat where
  doc := { Doc.empty with initialized := some marks }
  metadata := by rintro m ⟨⟩
  initialized := by
    intro m hm
    rw [← Option.some.inj hm]
    exact marks_nodup

/-- Every mark is a good one. -/
theorem crowded_marks : goodMarks written crowded.doc = marks := by
  unfold goodMarks crowded
  rw [Option.getD_some]
  refine List.filter_eq_self.2 fun entry hentry => ?_
  unfold marks at hentry
  obtain ⟨i, hi, rfl⟩ := List.mem_map.1 hentry
  have hi' := Nat.lt_trans (List.mem_range.1 hi) (by decide : 501 < 10000)
  have hpath : isFilePath (String.ofList (Lib.digits4 i)) = true :=
    isFilePath_digits (by rintro ⟨⟩) (by decide : 4 ≤ 512) (Lib.isDigit_digits4 hi')
  unfold isMark
  rw [hpath]
  rfl

end Example

open Example in
theorem reopened_valid :
    (run (anyStep written) (init (some legacy.doc)) reopened).map encodeState = some (some {
      metadata := some [("lang", .text "ts")]
      initialized := some [("main.ts", .bool true)]
      files := ["main.ts"]
      edits := {("main.ts", 1), ("main.ts", 3)}
      others := []
      surplus := 0 }) ∧
    ∀ s, run (anyStep written) (init (some legacy.doc)) reopened = some s →
      ∀ d, encodeState s = some d → checkCandidate written d = true := by
  refine ⟨by decide, fun s h => ?_⟩
  have hfit : ∀ n, some legacy = some n → marksFit written n.doc = true := by
    rintro n ⟨⟩
    decide
  exact (((served_valid written written_compact (some legacy)).2 hfit).2 _ s h).1

open Example in
theorem crowded_invalid :
    ¬ ∀ (snapshot : Option (Snapshot Nat)) (es : List (Event Nat)) (s : State Nat),
      run (anyStep written) (init (snapshot.map (·.doc))) es = some s →
        ∀ d, encodeState s = some d → checkCandidate written d = true := by
  intro h
  obtain ⟨s, hs, hd⟩ := Option.map_eq_some_iff.1 (first_served written (some crowded.doc))
  have hfit := (check_snapshot written_compact crowded).1 (h (some crowded) _ s hs _ hd)
  unfold marksFit maxCodeFiles at hfit
  rw [crowded_marks, marks, List.length_map, List.length_range, decide_eq_true_eq] at hfit
  omega

end DocService

end Livetich.Code
