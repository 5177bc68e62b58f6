/-
Tajweed annotations: what a teacher sends, how it is checked against the text of the Quran and the
rules of its mode, and the row and the public form it is kept in.
-/
import Mathlib.Data.List.Dedup
import Mathlib.Data.List.Lex
import Mathlib.Data.List.Sort
import Livetich.Courses.Update
import Livetich.Js.Text
import Livetich.Lib.Checked

namespace Livetich.Tajweed

open Livetich.Lib

abbrev AnnotationId := String

/-! ## Parts -/

/-- A position in the text: an ayah, one word of it, or one letter of that word. -/
structure Part where
  surahNumber : Nat
  ayahNumber : Nat
  wordIndex : Option Nat
  letterIndex : Option Nat
  deriving DecidableEq

/-! ## Content -/

inductive TajweedAnnotationMode
  | lesson
  | studentCorrection
  deriving DecidableEq

inductive TajweedAnnotationStyle
  | highlight
  | underline
  deriving DecidableEq

inductive TajweedOutcome
  | correct
  | repeat
  | tajweedIssue
  | pronunciation
  | note
  deriving DecidableEq

structure Content where
  rule : Option String
  customLabel : Option String
  style : TajweedAnnotationStyle
  color : Option String
  note : Option String
  outcome : Option TajweedOutcome
  deriving DecidableEq

/-! ## Rows -/

structure AnnotationRow where
  id : AnnotationId
  organizationId : OrganizationId
  courseId : CourseId
  sectionId : Option String
  sessionId : Option SessionId
  mode : TajweedAnnotationMode
  studentId : Option UserId
  hifzEntryId : Option String
  surahNumber : Nat
  ayahNumber : Nat
  kept : Bool
  content : Content
  version : Nat
  createdById : UserId
  updatedById : UserId
  createdAt : Nat
  updatedAt : Nat
  parts : List Part
  deriving DecidableEq

/-- The public form; a row's organization is left out of it. -/
structure TajweedAnnotation where
  id : AnnotationId
  courseId : CourseId
  sectionId : Option String
  sessionId : Option SessionId
  mode : TajweedAnnotationMode
  studentId : Option UserId
  hifzEntryId : Option String
  kept : Bool
  surahNumber : Nat
  ayahNumber : Nat
  parts : List Part
  content : Content
  version : Nat
  createdById : UserId
  updatedById : UserId
  createdAt : Nat
  updatedAt : Nat
  deriving DecidableEq

def toPublic (row : AnnotationRow) : TajweedAnnotation where
  id := row.id
  courseId := row.courseId
  sectionId := row.sectionId
  sessionId := row.sessionId
  mode := row.mode
  studentId := row.studentId
  hifzEntryId := row.hifzEntryId
  kept := row.kept
  surahNumber := row.surahNumber
  ayahNumber := row.ayahNumber
  parts := row.parts
  content := row.content
  version := row.version
  createdById := row.createdById
  updatedById := row.updatedById
  createdAt := row.createdAt
  updatedAt := row.updatedAt

inductive TajweedChange
  | created
  | updated
  | deleted
  deriving DecidableEq

structure Revision where
  annotationId : AnnotationId
  version : Nat
  change : TajweedChange
  snapshot : TajweedAnnotation
  changedById : UserId
  deriving DecidableEq

def revision (row : AnnotationRow) (change : TajweedChange) (changedById : UserId) : Revision where
  annotationId := row.id
  version := row.version
  change := change
  snapshot := toPublic row
  changedById := changedById

/-! ## Checks -/

inductive HttpError
  | notFound (message : String)
  | forbidden (message : String)
  | badRequest (message : String)
  /-- With what is stored now, where the caller is told. -/
  | conflict (message : String) (current : Option TajweedAnnotation)
  /-- An error of the database that no handler turns into an answer. -/
  | internal (message : String)
  deriving DecidableEq

abbrev Result (α : Type) := Except HttpError α

/-- The text: of each ayah, how many letters each of its words has. -/
abbrev Quran := Nat → Nat → Option (List Nat)

def maxParts : Nat := 64

/-- One part, if it is a place in the text. -/
def checkPart (quran : Quran) (part : Part) : Result Unit := do
  ensure (1 ≤ part.surahNumber ∧ part.surahNumber ≤ 114) (.badRequest "Surah must be between 1 and 114")
  let words ← orThrow (if part.ayahNumber = 0 then none else quran part.surahNumber part.ayahNumber)
    (.badRequest ("Surah " ++ toString part.surahNumber ++ " has no ayah " ++ toString part.ayahNumber))
  match part.wordIndex with
  | none => ensure (part.letterIndex = none) (.badRequest "A letter needs the word it belongs to")
  | some word =>
    let letters ← orThrow words[word]? (.badRequest ("Ayah " ++ toString part.surahNumber ++ ":" ++
      toString part.ayahNumber ++ " has " ++ toString words.length ++ " words; word " ++ toString word ++
      " does not exist"))
    match part.letterIndex with
    | none => return ()
    | some letter => ensure (letter < letters) (.badRequest ("That word has " ++ toString letters ++
        " letters; letter " ++ toString letter ++ " does not exist"))

/-- Reading order: a whole ayah before its words, a whole word before its letters. -/
def Part.rank (part : Part) : List Nat :=
  [part.surahNumber, part.ayahNumber, (part.wordIndex.map (· + 1)).getD 0, (part.letterIndex.map (· + 1)).getD 0]

/-- `validateParts`: at least one part and not too many, each in the text, once and in reading order. -/
def checkParts (quran : Quran) (parts : List Part) : Result (List Part) := do
  ensure (parts ≠ []) (.badRequest "Pick a word or a letter to mark")
  ensure (parts.length ≤ maxParts) (.badRequest ("A mark can hold at most " ++ toString maxParts ++ " pieces"))
  parts.forM (checkPart quran)
  return (parts.reverse.dedup.reverse).insertionSort fun a b => a.rank ≤ b.rank

/-- `TAJWEED_RULE_KEYS`. -/
def tajweedRuleKeys : List String :=
  ["nun.izhar_halqi", "nun.idgham_ghunnah", "nun.idgham_no_ghunnah", "nun.iqlab", "nun.ikhfa_haqiqi",
    "mim.ikhfa_shafawi", "mim.idgham_shafawi", "mim.izhar_shafawi", "ghunnah.mushaddadah", "qalqalah.sughra",
    "qalqalah.kubra", "madd.tabii", "madd.muttasil", "madd.munfasil", "madd.arid", "madd.lin", "madd.badal",
    "madd.iwad", "madd.silah_sughra", "madd.silah_kubra", "madd.lazim_kalimi_muthaqqal",
    "madd.lazim_kalimi_mukhaffaf", "madd.lazim_harfi_muthaqqal", "madd.lazim_harfi_mukhaffaf", "madd.tamkin",
    "madd.farq", "idgham.mutamathilayn", "idgham.mutajanisayn", "idgham.mutaqaribayn", "lam.shamsiyyah",
    "lam.qamariyyah", "lam.jalalah_tafkhim", "lam.jalalah_tarqiq", "ra.tafkhim", "ra.tarqiq", "sifat.istila",
    "sifat.istifal", "hamzah.wasl", "hamzah.qat", "waqf.lazim", "waqf.mamnu", "waqf.jaiz", "waqf.wasl_awla",
    "waqf.waqf_awla", "waqf.muanaqah", "waqf.saktah", "custom", "madd", "ghunnah", "ikhfa", "idgham", "iqlab",
    "izhar", "qalqalah", "waqf"]

/-- `replace(/<[^>]*>/g, '')`: a tag runs to the next closing bracket; without one it stays. -/
def dropTags : Nat → List Char → List Char
  | 0, cs => cs
  | _, [] => []
  | fuel + 1, c :: cs =>
    if c = '<' then
      match cs.dropWhile (· ≠ '>') with
      | _ :: rest => dropTags fuel rest
      | [] => c :: dropTags fuel cs
    else c :: dropTags fuel cs

/-- Control characters other than tabs and line breaks. -/
def isControl (c : Char) : Bool :=
  c.toNat ≤ 8 || c.toNat = 11 || c.toNat = 12 || (14 ≤ c.toNat && c.toNat ≤ 31) || c.toNat = 127

def cleanText (value : Option String) (max : Nat) : Option String :=
  (value.map fun text =>
    String.ofList (Js.slice (Js.trim ((dropTags text.length text.toList).filter fun c => !isControl c)) max)).filter
      (· ≠ "")

/-- `contentOf`: the rule, label, style and note, checked for the annotation's mode. -/
def contentOf (input : Content) (mode : TajweedAnnotationMode) : Result Content := do
  let customLabel := cleanText input.customLabel 60
  ensure (input.rule.all (tajweedRuleKeys.contains ·) = true) (.badRequest "Unknown Tajweed rule")
  match mode with
  | .lesson =>
    ensure (input.rule.isSome = true) (.badRequest "Choose a Tajweed rule")
    ensure (input.outcome = none) (.badRequest "Only a correction has an outcome")
  | .studentCorrection =>
    ensure (input.outcome.isSome = true) (.badRequest "Choose what the correction is")
    ensure (¬(input.outcome = some .tajweedIssue ∧ input.rule = none))
      (.badRequest "Choose which Tajweed rule needs work")
  ensure (¬(input.rule = some "custom" ∧ customLabel = none)) (.badRequest "Give the custom note a label")
  return { input with customLabel := customLabel, note := cleanText input.note 1000 }

/-! ## Requests -/

structure CreateDto where
  id : AnnotationId
  mode : TajweedAnnotationMode
  sectionId : Option String
  sessionId : Option SessionId
  studentId : Option UserId
  hifzEntryId : Option String
  parts : List Part
  kept : Option Bool
  rule : Option String
  customLabel : Option String
  style : Option TajweedAnnotationStyle
  color : Option String
  note : Option String
  outcome : Option TajweedOutcome

structure UpdateDto where
  version : Nat
  sessionId : Option SessionId
  parts : Option (List Part)
  kept : Option Bool
  rule : Courses.Field String
  customLabel : Courses.Field String
  style : Option TajweedAnnotationStyle
  color : Courses.Field String
  note : Courses.Field String
  outcome : Courses.Field TajweedOutcome

def CreateDto.content (dto : CreateDto) : Content :=
  ⟨dto.rule, dto.customLabel, dto.style.getD .highlight, dto.color, dto.note, dto.outcome⟩

/-- The content that an edit asks for: absent fields keep what is stored. -/
def UpdateDto.content (dto : UpdateDto) (row : AnnotationRow) : Content where
  rule := dto.rule.write row.content.rule
  customLabel := dto.customLabel.write row.content.customLabel
  style := dto.style.getD row.content.style
  color := dto.color.write row.content.color
  note := dto.note.write row.content.note
  outcome := dto.outcome.write row.content.outcome

end Livetich.Tajweed
