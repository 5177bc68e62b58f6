/-
The text files of an uploaded archive (`coding-archive.util.ts`): entries are read in the order of the
zip while something of the budget is left, and each is charged once it has been read.
-/
import Livetich.Code.Paths
import Livetich.Lib.Budget
import Livetich.Lib.Checked

namespace Livetich.Coding

open Livetich.Lib
open Livetich.Code (forwardSlashes toLowerCase)

/-! ## Paths -/

/-- `SKIP_DIRS`. -/
def skipDirs : List String :=
  ["node_modules", ".git", "dist", "build", ".next", "out", "coverage", "vendor", "__pycache__", ".venv", "venv",
    ".idea", ".vscode"]

/-- `TEXT_EXT`. -/
def textExt : List String :=
  ["ts", "tsx", "js", "jsx", "mjs", "cjs", "json", "md", "txt", "html", "htm", "css", "scss", "sass", "less", "py",
    "java", "kt", "go", "rs", "rb", "php", "c", "h", "cpp", "hpp", "cc", "cs", "swift", "sql", "yml", "yaml", "toml",
    "xml", "sh", "bash", "env", "gitignore", "dockerfile", "vue", "svelte", "prisma", "graphql", "gql"]

/-- `LANG_BY_EXT`. -/
def langByExt : List (String × String) :=
  [("ts", "typescript"), ("tsx", "typescript"), ("js", "javascript"), ("jsx", "javascript"), ("mjs", "javascript"),
    ("cjs", "javascript"), ("py", "python"), ("java", "java"), ("kt", "kotlin"), ("go", "go"), ("rs", "rust"),
    ("rb", "ruby"), ("php", "php"), ("c", "c"), ("h", "c"), ("cpp", "cpp"), ("hpp", "cpp"), ("cc", "cpp"),
    ("cs", "csharp"), ("swift", "swift"), ("sql", "sql"), ("html", "html"), ("htm", "html"), ("css", "css"),
    ("scss", "scss"), ("sass", "sass"), ("less", "less"), ("json", "json"), ("md", "markdown"), ("yml", "yaml"),
    ("yaml", "yaml"), ("vue", "vue"), ("svelte", "svelte"), ("prisma", "prisma"), ("graphql", "graphql"),
    ("gql", "graphql")]

/-- `/^[a-zA-Z]:[\\/]/`. -/
def isDriveAbsolute : List Char → Bool
  | c :: ':' :: s :: _ => c.isAlpha && (s == '\\' || s == '/')
  | _ => false

def isUnsafeOrSkipped (path : List Char) : Bool :=
  if path = [] || path.head? = some '/' || path.head? = some '\\' then true
  else if isDriveAbsolute path then true
  else
    let parts := path.splitOn '/'
    if parts.any (· == ['.', '.']) then true else parts.any fun p => skipDirs.any (·.toList == p)

def extOf (path : List Char) : List Char :=
  let base := (path.splitOn '/').getLastD []
  if toLowerCase base = "dockerfile".toList then "dockerfile".toList
  else
    let ext := (base.reverse.takeWhile (· ≠ '.')).reverse
    if ext.length + 1 < base.length then toLowerCase ext else []

def languageOf (path : List Char) : Option String :=
  (langByExt.find? fun entry => entry.1.toList == extOf path).map (·.2)

def isTextFile (path : List Char) : Bool := textExt.any (·.toList == extOf path)

/-- An entry's name as a relative path with forward slashes. -/
def normalize (entryName : String) : List Char :=
  match forwardSlashes entryName.toList with
  | '.' :: '/' :: rest => rest
  | path => path

example :
    extOf "src/App.TSX".toList = "tsx".toList ∧ extOf ".env".toList = [] ∧
      extOf "Dockerfile".toList = "dockerfile".toList ∧ isUnsafeOrSkipped "a/../b.ts".toList = true ∧
      normalize ".\\src\\a.ts" = "src/a.ts".toList := by
  decide

/-! ## Reading -/

/-- `MAX_TEXT_FILE_BYTES`. -/
def maxTextFileBytes : Nat := 256 * 1024

structure ZipEntry where
  isDirectory : Bool
  entryName : String
  /-- `header.size`, the size that the archive states. -/
  size : Nat
  /-- `getData().toString('utf8')`, which throws on an entry that is damaged. -/
  getData : Except String String

structure ArchiveTextFile where
  path : String
  content : String
  language : Option String
  deriving DecidableEq

/-- The entries that are read at all. -/
def ZipEntry.isRead (entry : ZipEntry) : Bool :=
  let path := normalize entry.entryName
  !entry.isDirectory && !(isUnsafeOrSkipped path || !isTextFile path) && !(maxTextFileBytes < entry.size)

def ZipEntry.textFile (entry : ZipEntry) (content : String) : ArchiveTextFile :=
  let path := normalize entry.entryName
  ⟨String.ofList path, content, languageOf path⟩

/-- The loop of `readTextFiles`; with no budget everything is read. -/
def readEntries : List ZipEntry → Option Int → Except String (List ArchiveTextFile)
  | [], _ => .ok []
  | entry :: rest, budget =>
    if !entry.isRead then readEntries rest budget
    else if budget.any (· ≤ 0) then .ok []
    else do
      let content ← entry.getData
      let out ← readEntries rest (budget.map (· - content.utf8ByteSize))
      return entry.textFile content :: out

variable {Buffer : Type} (adm : Buffer → Option (List ZipEntry))

def readTextFiles (buffer : Buffer) (maxTotalBytes : Option Int) : Except String (List ArchiveTextFile) :=
  match adm buffer with
  | none => .error "The uploaded file is not a valid .zip archive"
  | some entries => readEntries entries maxTotalBytes

/-! ## The budget -/

def ArchiveTextFile.bytes (file : ArchiveTextFile) : Nat := file.content.utf8ByteSize

/-- The bytes of an entry, none where it cannot be read. -/
def ZipEntry.bytes (entry : ZipEntry) : Nat := (entry.getData.toOption.map (·.utf8ByteSize)).getD 0

/-- The entries that are read, in the order of the archive. -/
def readable (entries : List ZipEntry) : List ZipEntry := entries.filter (·.isRead)

/-- An entry is passed over, or nothing is left for it, or its text comes before what is read of the rest. -/
theorem readEntries_cons_ok {entry : ZipEntry} {rest : List ZipEntry} {budget : Option Int}
    {out : List ArchiveTextFile} (h : readEntries (entry :: rest) budget = .ok out) :
    (entry.isRead = false ∧ readEntries rest budget = .ok out) ∨
      (entry.isRead = true ∧ budget.any (· ≤ 0) = true ∧ out = []) ∨
      (entry.isRead = true ∧ budget.any (· ≤ 0) = false ∧ ∃ content tail, entry.getData = .ok content ∧
        readEntries rest (budget.map (· - content.utf8ByteSize)) = .ok tail ∧
          out = entry.textFile content :: tail) := by
  cases hread : entry.isRead with
  | false =>
    unfold readEntries at h
    rw [hread] at h
    exact .inl ⟨rfl, h⟩
  | true =>
    unfold readEntries at h
    rw [hread] at h
    cases hspent : budget.any (· ≤ 0) with
    | true =>
      rw [hspent] at h
      cases h
      exact .inr (.inl ⟨rfl, rfl, rfl⟩)
    | false =>
      rw [hspent] at h
      obtain ⟨content, hdata, h⟩ := bind_ok_iff.1 h
      obtain ⟨tail, htail, h⟩ := bind_ok_iff.1 h
      cases h
      exact .inr (.inr ⟨rfl, rfl, content, tail, hdata, htail, rfl⟩)

/-- What comes out is what the budget buys of the entries. -/
theorem readEntries_ok : ∀ {entries : List ZipEntry} {budget : Int} {out : List ArchiveTextFile},
    readEntries entries (some budget) = .ok out → cost ArchiveTextFile.bytes out =
      cost ZipEntry.bytes (takeUntilSpent ZipEntry.bytes budget.toNat (readable entries))
  | [], _, out, h => by
    cases h
    rfl
  | entry :: rest, budget, out, h => by
    unfold readable
    rcases readEntries_cons_ok h with ⟨hskip, h⟩ | ⟨hread, hspent, rfl⟩ |
      ⟨hread, hleft, content, tail, hdata, htail, rfl⟩
    · rw [List.filter_cons_of_neg (by rw [hskip]; exact Bool.false_ne_true)]
      exact readEntries_ok h
    · have hzero : budget.toNat = 0 := by simpa using hspent
      rw [List.filter_cons_of_pos hread, takeUntilSpent_cons, if_pos hzero]
      rfl
    · have hzero : budget.toNat ≠ 0 := by simpa using hleft
      have hbytes : entry.bytes = content.utf8ByteSize := by
        unfold ZipEntry.bytes
        rw [hdata]
        rfl
      have hrest : (budget - content.utf8ByteSize).toNat = budget.toNat - entry.bytes := by omega
      have ih := readEntries_ok htail
      rw [hrest] at ih
      rw [List.filter_cons_of_pos hread, takeUntilSpent_cons, if_neg hzero, cost_cons, cost_cons, ih, hbytes]
      rfl

/-- With something to spend, nothing comes out only where there is nothing to read. -/
theorem readEntries_nil : ∀ {entries : List ZipEntry} {budget : Int}, 0 < budget →
    readEntries entries (some budget) = .ok [] → ∀ entry ∈ entries, entry.isRead = false
  | [], _, _, _ => by simp
  | entry :: rest, budget, hpos, h => by
    rcases readEntries_cons_ok h with ⟨hskip, h⟩ | ⟨-, hspent, -⟩ | ⟨-, -, content, tail, -, -, h⟩
    · rw [List.forall_mem_cons]
      exact ⟨hskip, readEntries_nil hpos h⟩
    · have hzero : budget ≤ 0 := by simpa using hspent
      omega
    · cases h

/-- The texts of an archive are within the budget exactly when all of them are, or the first few come to
it exactly. -/
theorem readTextFiles_within {buffer : Buffer} {entries : List ZipEntry} {budget : Nat} {out : List ArchiveTextFile}
    (hzip : adm buffer = some entries) (h : readTextFiles adm buffer (some budget) = .ok out) :
    cost ArchiveTextFile.bytes out ≤ budget ↔ cost ZipEntry.bytes (readable entries) ≤ budget ∨
      ∃ first, first <+: readable entries ∧ cost ZipEntry.bytes first = budget := by
  unfold readTextFiles at h
  rw [hzip] at h
  have hcost := readEntries_ok h
  rw [Int.toNat_natCast] at hcost
  rw [hcost]
  exact cost_takeUntilSpent_le

end Livetich.Coding
