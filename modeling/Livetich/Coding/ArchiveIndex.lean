/-
The index of an uploaded archive (`indexArchive`) beside the two readers of its files, `readTextFiles` and
`readOneTextFile`. A listed path is normalised once more when it is opened, and the first entry under a name is the
one that is opened, so what can be opened depends on the names of all entries.
-/
import Livetich.Coding.Archive

namespace Livetich.Coding

open Livetich.Lib
open Livetich.Code (forwardSlashes)

/-! ## The index -/

/-- `MAX_FILES`. -/
def maxFiles : Nat := 500

/-- `MAX_TOTAL_UNCOMPRESSED`. -/
def maxTotalUncompressed : Nat := 60 * 1024 * 1024

structure IndexedFile where
  path : String
  size : Nat
  language : Option String
  deriving DecidableEq

structure ArchiveIndex where
  files : List IndexedFile
  totalUncompressed : Nat
  truncated : Bool
  deriving DecidableEq

/-- The entries that may be listed. -/
def ZipEntry.isListed (entry : ZipEntry) : Bool :=
  !entry.isDirectory && !isUnsafeOrSkipped (normalize entry.entryName)

def ZipEntry.indexedFile (entry : ZipEntry) : IndexedFile :=
  let path := normalize entry.entryName
  ⟨String.ofList path, entry.size, languageOf path⟩

/-- The loop of `indexArchive`. -/
def indexEntries : List ZipEntry → ArchiveIndex → Except String ArchiveIndex
  | [], index => .ok index
  | entry :: rest, index =>
    if !entry.isListed then indexEntries rest index
    else do
      let totalUncompressed := index.totalUncompressed + entry.size
      ensure (totalUncompressed ≤ maxTotalUncompressed) "Archive contents are too large to process"
      if maxFiles ≤ index.files.length then return { index with totalUncompressed, truncated := true }
      else indexEntries rest { index with totalUncompressed, files := index.files ++ [entry.indexedFile] }

variable {Buffer : Type} (adm : Buffer → Option (List ZipEntry)) (collation : String → String → Bool)

/-- `indexArchive`; the host's `localeCompare` orders the files. -/
def indexArchive (buffer : Buffer) : Except String ArchiveIndex := do
  let entries ← orThrow (adm buffer) "The uploaded file is not a valid .zip archive"
  let index ← indexEntries entries ⟨[], 0, false⟩
  ensure (index.files ≠ []) "The archive contains no readable project files"
  return { index with files := index.files.mergeSort fun a b => collation a.path b.path }

/-- The entry that a path opens. -/
def entryAt (entries : List ZipEntry) (target : List Char) : Option ZipEntry :=
  entries.find? fun e => !e.isDirectory && normalize e.entryName == target

def readOneTextFile (buffer : Buffer) (path : String) : Except String (Option ArchiveTextFile) := do
  let entries ← orThrow (adm buffer) "The uploaded file is not a valid .zip archive"
  let target := normalize path
  match entryAt entries target with
  | none => return none
  | some entry =>
    if isUnsafeOrSkipped target || !isTextFile target then return none
    else if maxTextFileBytes < entry.size then return none
    else do
      let content ← entry.getData
      return some ⟨String.ofList target, content, languageOf target⟩

/-! ## What is listed -/

/-- The entries that are listed while there is room. -/
def listed (entries : List ZipEntry) : List ZipEntry := (entries.filter (·.isListed)).take maxFiles

theorem indexEntries_ok : ∀ {entries : List ZipEntry} {index out : ArchiveIndex},
    indexEntries entries index = .ok out →
    out.files = index.files ++
        ((entries.filter (·.isListed)).take (maxFiles - index.files.length)).map ZipEntry.indexedFile ∧
      (out.truncated = false → (entries.filter (·.isListed)).length ≤ maxFiles - index.files.length)
  | [], index, out, h => by
    cases h
    simp
  | entry :: rest, index, out, h => by
    unfold indexEntries at h
    split at h
    · rename_i hskip
      rw [List.filter_cons_of_neg (by simpa using hskip)]
      exact indexEntries_ok h
    · rename_i hlisted
      rw [List.filter_cons_of_pos (by simpa using hlisted)]
      obtain ⟨-, -, h⟩ := bind_ok_iff.1 h
      split at h
      · rename_i hfull
        cases h
        have hroom : maxFiles - index.files.length = 0 := by omega
        rw [hroom]
        simp
      · rename_i hroom
        obtain ⟨hfiles, htruncated⟩ := indexEntries_ok h
        have hleft : maxFiles - index.files.length =
            (maxFiles - (index.files ++ [entry.indexedFile]).length) + 1 := by
          rw [List.length_append, List.length_singleton]
          omega
        rw [hleft, List.take_succ_cons, List.map_cons, List.length_cons]
        refine ⟨?_, fun hout => Nat.succ_le_succ (htruncated hout)⟩
        rw [hfiles, List.append_assoc, List.singleton_append]

/-- The index lists the files of `listed`, and all that may be listed unless it says that it is truncated. -/
theorem indexArchive_ok {buffer : Buffer} {entries : List ZipEntry} {index : ArchiveIndex}
    (hzip : adm buffer = some entries) (h : indexArchive adm collation buffer = .ok index) :
    index.files.Perm ((listed entries).map ZipEntry.indexedFile) ∧
      (index.truncated = false → listed entries = entries.filter (·.isListed)) := by
  unfold indexArchive at h
  obtain ⟨found, hfound, h⟩ := bind_ok_iff.1 h
  rw [orThrow_ok_iff, hzip] at hfound
  cases hfound
  obtain ⟨out, hout, h⟩ := bind_ok_iff.1 h
  obtain ⟨-, -, h⟩ := bind_ok_iff.1 h
  cases h
  obtain ⟨hfiles, htruncated⟩ := indexEntries_ok hout
  constructor
  · refine (List.mergeSort_perm ..).trans ?_
    rw [hfiles]
    rfl
  · intro hwhole
    exact List.take_of_length_le (htruncated hwhole)

/-! ## What is opened -/

theorem forwardSlashes_of_none {path : List Char} (h : ∀ c ∈ path, c ≠ '\\') : forwardSlashes path = path := by
  unfold forwardSlashes
  refine (List.map_congr_left fun c hc => ?_).trans (List.map_id _)
  rw [if_neg (h c hc)]
  rfl

theorem normalize_no_backslash (entryName : String) : ∀ c ∈ normalize entryName, c ≠ '\\' := by
  have hslashes : ∀ c ∈ forwardSlashes entryName.toList, c ≠ '\\' := by
    intro c hc
    obtain ⟨d, -, rfl⟩ := List.mem_map.1 hc
    split <;> simp_all
  intro c hc
  unfold normalize at hc
  split at hc
  · rename_i rest heq
    exact hslashes c (by rw [heq]; simp [hc])
  · exact hslashes c hc

/-- A normal path is left as it is just when no further "./" stands before it. -/
theorem normalize_again {path : List Char} (h : ∀ c ∈ path, c ≠ '\\') :
    normalize (String.ofList path) = path ↔ ¬ ['.', '/'] <+: path := by
  unfold normalize
  rw [String.toList_ofList, forwardSlashes_of_none h]
  split
  · rename_i rest
    constructor
    · intro heq
      have hlength := congrArg List.length heq
      simp only [List.length_cons] at hlength
      omega
    · intro hdot
      exact absurd ⟨rest, rfl⟩ hdot
  · rename_i hdot
    refine ⟨fun _ => ?_, fun _ => rfl⟩
    rintro ⟨rest, rfl⟩
    exact hdot rest rfl

/-- An entry that is no directory has a first one of its name. -/
theorem entryAt_self {entries : List ZipEntry} {entry : ZipEntry} (h : entry ∈ entries)
    (hfile : entry.isDirectory = false) : ∃ first, entryAt entries (normalize entry.entryName) = some first := by
  cases hfirst : entryAt entries (normalize entry.entryName) with
  | some first => exact ⟨first, rfl⟩
  | none =>
    have := List.find?_eq_none.1 hfirst entry h
    simp [hfile] at this

/-- A path of a text that may be listed opens the first entry of its name, if that one is small enough. -/
theorem readOneTextFile_iff {buffer : Buffer} {entries : List ZipEntry} {path : String} {first : ZipEntry}
    {file : ArchiveTextFile} (hzip : adm buffer = some entries) (hfirst : entryAt entries (normalize path) = some first)
    (hsafe : isUnsafeOrSkipped (normalize path) = false) (htext : isTextFile (normalize path) = true) :
    readOneTextFile adm buffer path = .ok (some file) ↔ first.size ≤ maxTextFileBytes ∧
      ∃ content, first.getData = .ok content ∧
        file = ⟨String.ofList (normalize path), content, languageOf (normalize path)⟩ := by
  unfold readOneTextFile
  simp only [hzip, orThrow, ok_bind, hfirst, hsafe, htext, Bool.not_true, Bool.or_self, Bool.false_eq_true, if_false]
  split
  · rename_i hbig
    constructor
    · intro h
      cases h
    · rintro ⟨hsmall, -⟩
      omega
  · rename_i hsmall
    rw [bind_ok_iff]
    constructor
    · rintro ⟨content, hdata, h⟩
      cases h
      exact ⟨by omega, content, hdata, rfl⟩
    · rintro ⟨-, content, hdata, rfl⟩
      exact ⟨content, hdata, rfl⟩

/-- What is opened carries the path it was found under. -/
theorem readOneTextFile_path {buffer : Buffer} {path : String} {file : ArchiveTextFile}
    (h : readOneTextFile adm buffer path = .ok (some file)) : file.path = String.ofList (normalize path) := by
  obtain ⟨entries, -, h⟩ := bind_ok_iff.1 h
  simp only at h
  cases hfirst : entryAt entries (normalize path) with
  | none =>
    rw [hfirst] at h
    cases h
  | some first =>
    rw [hfirst] at h
    simp only at h
    split at h
    · cases h
    · split at h
      · cases h
      · obtain ⟨content, -, h⟩ := bind_ok_iff.1 h
        cases h
        rfl

/-! ## What is read -/

theorem mem_readEntries : ∀ {entries : List ZipEntry} {budget : Option Int} {out : List ArchiveTextFile},
    readEntries entries budget = .ok out →
    ∀ file ∈ out, ∃ entry ∈ entries, entry.isRead = true ∧ ∃ content, file = entry.textFile content
  | [], _, _, h => by
    cases h
    simp
  | entry :: rest, budget, out, h => by
    have hlater : ∀ {later out'}, readEntries rest later = .ok out' → ∀ file ∈ out',
        ∃ e ∈ entry :: rest, e.isRead = true ∧ ∃ content, file = e.textFile content := by
      intro later out' hout file hfile
      obtain ⟨e, he, hread⟩ := mem_readEntries hout file hfile
      exact ⟨e, List.mem_cons_of_mem _ he, hread⟩
    rcases readEntries_cons_ok h with ⟨-, h⟩ | ⟨-, -, rfl⟩ | ⟨hread, -, content, tail, -, htail, rfl⟩
    · exact hlater h
    · simp
    · rw [List.forall_mem_cons]
      exact ⟨⟨entry, List.mem_cons_self, hread, content, rfl⟩, hlater htail⟩

/-- What is read may be listed. -/
theorem isListed_of_isRead {entry : ZipEntry} (h : entry.isRead = true) : entry.isListed = true := by
  unfold ZipEntry.isRead at h
  unfold ZipEntry.isListed
  simp only [Bool.and_eq_true, Bool.not_eq_true', Bool.or_eq_false_iff] at h ⊢
  exact ⟨h.1.1, h.1.2.1⟩

/-! ## The index and its readers -/

/-- Every listed text of the reader's size is opened at its listed path, and is the entry's own. -/
def Opened (buffer : Buffer) (entries : List ZipEntry) : Prop :=
  ∀ entry ∈ listed entries, isTextFile (normalize entry.entryName) = true → entry.size ≤ maxTextFileBytes →
    ∃ content, entry.getData = .ok content ∧
      readOneTextFile adm buffer entry.indexedFile.path = .ok (some (entry.textFile content))

/-- Every text that is read has a path the index accepts, and is in an index that is whole. -/
def TextsListed (buffer : Buffer) (index : ArchiveIndex) : Prop :=
  ∀ maxTotalBytes out, readTextFiles adm buffer maxTotalBytes = .ok out → ∀ file ∈ out,
    isUnsafeOrSkipped file.path.toList = false ∧
      (index.truncated = false → file.path ∈ index.files.map (·.path))

/-- An entry whose name is normal once it is listed, and that hides behind no other of its name. -/
def Unhidden (entries : List ZipEntry) (entry : ZipEntry) : Prop :=
  ¬ ['.', '/'] <+: normalize entry.entryName ∧ ∃ content, entry.getData = .ok content ∧
    ∀ first, entryAt entries (normalize entry.entryName) = some first →
      first.size ≤ maxTextFileBytes ∧ first.getData = .ok content

theorem textsListed {buffer : Buffer} {entries : List ZipEntry} {index : ArchiveIndex}
    (hzip : adm buffer = some entries) (h : indexArchive adm collation buffer = .ok index) :
    TextsListed adm buffer index := by
  obtain ⟨hfiles, hwhole⟩ := indexArchive_ok adm collation hzip h
  intro maxTotalBytes out hout file hfile
  unfold readTextFiles at hout
  rw [hzip] at hout
  obtain ⟨entry, hentry, hread, content, rfl⟩ := mem_readEntries hout file hfile
  have hlisted := isListed_of_isRead hread
  constructor
  · show isUnsafeOrSkipped (String.ofList _).toList = false
    rw [String.toList_ofList]
    unfold ZipEntry.isListed at hlisted
    simp only [Bool.and_eq_true, Bool.not_eq_true'] at hlisted
    exact hlisted.2
  · intro htruncated
    have hmem : entry.indexedFile ∈ index.files := by
      rw [hfiles.mem_iff, hwhole htruncated]
      exact List.mem_map_of_mem (List.mem_filter.2 ⟨hentry, hlisted⟩)
    exact List.mem_map_of_mem hmem

theorem mem_listed {entries : List ZipEntry} {entry : ZipEntry} (h : entry ∈ listed entries) :
    entry ∈ entries ∧ entry.isDirectory = false ∧ isUnsafeOrSkipped (normalize entry.entryName) = false := by
  obtain ⟨hmem, hlisted⟩ := List.mem_filter.1 (List.mem_of_mem_take h)
  unfold ZipEntry.isListed at hlisted
  simp only [Bool.and_eq_true, Bool.not_eq_true'] at hlisted
  exact ⟨hmem, hlisted⟩

theorem opened_iff {buffer : Buffer} {entries : List ZipEntry} (hzip : adm buffer = some entries) :
    Opened adm buffer entries ↔ ∀ entry ∈ listed entries, isTextFile (normalize entry.entryName) = true →
      entry.size ≤ maxTextFileBytes → Unhidden entries entry := by
  refine forall₄_congr fun entry hlisted htext hsize => ?_
  obtain ⟨hmem, hfile, hsafe⟩ := mem_listed hlisted
  have hagain := normalize_again (normalize_no_backslash entry.entryName)
  obtain ⟨first, hfirst⟩ := entryAt_self hmem hfile
  constructor
  · rintro ⟨content, hdata, hopen⟩
    have hpath : normalize entry.indexedFile.path = normalize entry.entryName :=
      String.ofList_injective (readOneTextFile_path adm hopen).symm
    rw [readOneTextFile_iff adm hzip (by rw [hpath]; exact hfirst) (by rw [hpath]; exact hsafe)
      (by rw [hpath]; exact htext)] at hopen
    obtain ⟨hsmall, content', hcontent, hfile⟩ := hopen
    have hsame : content = content' := congrArg ArchiveTextFile.content hfile
    subst hsame
    refine ⟨hagain.1 hpath, content, hdata, fun first' hfirst' => ?_⟩
    obtain rfl : first = first' := Option.some.inj (hfirst.symm.trans hfirst')
    exact ⟨hsmall, hcontent⟩
  · rintro ⟨hdot, content, hdata, hsame⟩
    obtain ⟨hsmall, hcontent⟩ := hsame first hfirst
    have hpath : normalize entry.indexedFile.path = normalize entry.entryName := hagain.2 hdot
    refine ⟨content, hdata, ?_⟩
    rw [readOneTextFile_iff adm hzip (by rw [hpath]; exact hfirst) (by rw [hpath]; exact hsafe)
      (by rw [hpath]; exact htext), hpath]
    exact ⟨hsmall, content, hcontent, rfl⟩

/-- A listed text can be opened, as its own entry, just when no "./" is left before its path and the first entry of
its name is no larger than the reader takes and holds the same. What is read as text is always in the index. -/
theorem index_opened_iff {buffer : Buffer} {entries : List ZipEntry} {index : ArchiveIndex}
    (hzip : adm buffer = some entries) (h : indexArchive adm collation buffer = .ok index) :
    index.files.Perm ((listed entries).map ZipEntry.indexedFile) ∧
      (Opened adm buffer entries ∧ TextsListed adm buffer index ↔
        ∀ entry ∈ listed entries, isTextFile (normalize entry.entryName) = true →
          entry.size ≤ maxTextFileBytes → Unhidden entries entry) := by
  refine ⟨(indexArchive_ok adm collation hzip h).1, ?_⟩
  rw [opened_iff adm hzip]
  exact and_iff_left (textsListed adm collation hzip h)

/-! ## A file with two dots before it -/

namespace Example

/-- A buffer that is its own list of entries. -/
def unzipped (entries : List ZipEntry) : Option (List ZipEntry) := some entries

def bySpelling (a b : String) : Bool := a ≤ b

def source : ZipEntry := ⟨false, "src\\a.ts", 9, .ok "let a = 1"⟩
def picture : ZipEntry := ⟨false, "b.png", 300000, .ok "PNG"⟩
def dotted : ZipEntry := ⟨false, "././a.ts", 9, .ok "let a = 1"⟩

end Example

open Example in
theorem source_opened :
    ∃ index, indexArchive unzipped bySpelling [source, picture] = .ok index ∧
      Opened unzipped [source, picture] [source, picture] ∧ TextsListed unzipped [source, picture] index := by
  have hindex : ∃ index, indexArchive unzipped bySpelling [source, picture] = .ok index := ⟨_, rfl⟩
  obtain ⟨index, hindex⟩ := hindex
  refine ⟨index, hindex, (index_opened_iff unzipped bySpelling rfl hindex).2.2 ?_⟩
  intro entry hlisted htext hsize
  have hentry : entry = source ∨ entry = picture := by
    simpa using (mem_listed hlisted).1
  rcases hentry with rfl | rfl
  · refine ⟨by decide, "let a = 1", rfl, fun first hfirst => ?_⟩
    have hself : entryAt [source, picture] (normalize source.entryName) = some source := rfl
    rw [hself] at hfirst
    cases hfirst
    exact ⟨by decide, rfl⟩
  · exact absurd htext (by decide)

open Example in
/-- The index lists "./a.ts", and opening that path looks for "a.ts". -/
theorem dotted_not_opened :
    ∃ index, indexArchive unzipped bySpelling [dotted] = .ok index ∧
      index.files = [⟨"./a.ts", 9, some "typescript"⟩] ∧ index.truncated = false ∧
      readOneTextFile unzipped [dotted] "./a.ts" = .ok none ∧ ¬ Opened unzipped [dotted] [dotted] := by
  refine ⟨⟨[⟨"./a.ts", 9, some "typescript"⟩], 9, false⟩, by decide +kernel, rfl, rfl, by decide +kernel, ?_⟩
  intro h
  have hlisted : listed [dotted] = [dotted] := rfl
  obtain ⟨content, -, hopen⟩ := h dotted (by rw [hlisted]; simp) (by decide +kernel) (by decide +kernel)
  have hnone : readOneTextFile unzipped [dotted] dotted.indexedFile.path = .ok none := by decide +kernel
  rw [hnone] at hopen
  cases hopen

end Livetich.Coding
