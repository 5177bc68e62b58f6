/-
The parts of a mark (`validateParts`): references into the text as a client sends them, with any numbers for
their positions, and the places they name. The text's words and the letters of a word are parameters.
-/
import Livetich.Lib.Canonical
import Livetich.Lib.Digits
import Livetich.Tajweed.Marks

namespace Livetich.Tajweed

open Livetich.Lib Livetich.Js Marks

/-! ## References -/

structure Text where
  /-- The words of an ayah, where there is one. -/
  ayahWords : Nat → Nat → Option (List String)
  /-- The letters of a word, each with its marks. -/
  graphemes : String → List String

/-- A place as a client sends it; a position that is null is one that is absent. -/
structure PartRef where
  surahNumber : Number
  ayahNumber : Number
  wordIndex : Option Number
  letterIndex : Option Number
  deriving DecidableEq

inductive PartsError
  | nothing
  | tooMany (max : Int)
  | surah
  | ayah (surah ayah : Number)
  | letterAlone
  | word (surah ayah words : Nat) (word : Number)
  | letter (letters : Nat) (letter : Number)
  deriving DecidableEq

/-- The text of an error; how a number is printed is the language's. -/
def PartsError.message (print : Number → String) : PartsError → String
  | .nothing => "Pick a word or a letter to mark"
  | .tooMany max => "A mark can hold at most " ++ toString max ++ " pieces"
  | .surah => "Surah must be between 1 and 114"
  | .ayah s a => "Surah " ++ print s ++ " has no ayah " ++ print a
  | .letterAlone => "A letter needs the word it belongs to"
  | .word s a words w => "Ayah " ++ toString s ++ ":" ++ toString a ++ " has " ++ toString words ++
      " words; word " ++ print w ++ " does not exist"
  | .letter letters l => "That word has " ++ toString letters ++ " letters; letter " ++ print l ++
      " does not exist"

/-- `isIndex`: a whole number from zero on. -/
def isIndex (n : Number) : Option Nat :=
  match n.toInteger with
  | some (.ofNat k) => some k
  | _ => none

/-- The checks of one reference. -/
def resolve (text : Text) (part : PartRef) : Except PartsError Part := do
  let surah ← orThrow ((isIndex part.surahNumber).filter fun n => 1 ≤ n ∧ n ≤ 114) .surah
  let (ayah, words) ← orThrow (((isIndex part.ayahNumber).filter fun n => 1 ≤ n).bind fun ayah =>
      (text.ayahWords surah ayah).map fun words => (ayah, words))
    (.ayah part.surahNumber part.ayahNumber)
  match part.wordIndex with
  | none =>
    ensure (part.letterIndex = none) .letterAlone
    return ⟨surah, ayah, none, none⟩
  | some word =>
    let (wordIndex, word) ← orThrow ((isIndex word).bind fun i => words[i]?.map fun word => (i, word))
      (.word surah ayah words.length word)
    match part.letterIndex with
    | none => return ⟨surah, ayah, some wordIndex, none⟩
    | some letter =>
      let letters := text.graphemes word
      let letterIndex ← orThrow ((isIndex letter).filter (· < letters.length)) (.letter letters.length letter)
      return ⟨surah, ayah, some wordIndex, some letterIndex⟩

/-- `${position ?? ''}`. -/
def printed (position : Option Nat) : String := (position.map toString).getD ""

/-- What a place is remembered by. -/
def Part.key (part : Part) : String :=
  toString part.surahNumber ++ ":" ++ toString part.ayahNumber ++ ":" ++ printed part.wordIndex ++ ":" ++
    printed part.letterIndex

/-- `a || b` of two differences. -/
def orElse (a b : Int) : Int := if a = 0 then b else a

def rank (position : Option Nat) : Int := (position.map Int.ofNat).getD (-1)

def compareParts (a b : Part) : Int :=
  orElse (a.surahNumber - b.surahNumber) (orElse (a.ayahNumber - b.ayahNumber)
    (orElse (rank a.wordIndex - rank b.wordIndex) (rank a.letterIndex - rank b.letterIndex)))

def validateParts (text : Text) (parts : List PartRef) (max : Int) : Except PartsError (List Part) := do
  ensure (parts ≠ []) .nothing
  ensure (parts.length ≤ max) (.tooMany max)
  let out ← parts.mapM (resolve text)
  return Canonical.canonical Part.key (fun a b => compareParts a b ≤ 0) out

/-! ## Places -/

/-- How many letters the words of an ayah have. -/
def Text.quran (text : Text) : Quran := fun surah ayah =>
  (text.ayahWords surah ayah).map fun words => words.map fun word => (text.graphemes word).length

def ofIndex (n : Nat) : Number := .ofInt n

def Part.toRef (part : Part) : PartRef where
  surahNumber := ofIndex part.surahNumber
  ayahNumber := ofIndex part.ayahNumber
  wordIndex := part.wordIndex.map ofIndex
  letterIndex := part.letterIndex.map ofIndex

theorem isIndex_eq_some {n : Number} {k : Nat} : isIndex n = some k ↔ n = ofIndex k := by
  unfold ofIndex
  rw [← Number.toInteger_eq_some]
  unfold isIndex
  split
  · rename_i j hj
    rw [hj]
    simp
  · rename_i hnone
    constructor
    · intro h
      cases h
    · intro h
      exact absurd h (hnone k)

@[simp] theorem isIndex_ofIndex (k : Nat) : isIndex (ofIndex k) = some k := isIndex_eq_some.2 rfl

theorem ofIndex_injective : Function.Injective ofIndex := by
  intro m n h
  have hindex := congrArg isIndex h
  simpa using hindex

theorem toRef_injective : Function.Injective Part.toRef := by
  intro a b h
  obtain ⟨surah, ayah, word, letter⟩ := a
  obtain ⟨surah', ayah', word', letter'⟩ := b
  simp only [Part.toRef, PartRef.mk.injEq] at h
  obtain ⟨hsurah, hayah, hword, hletter⟩ := h
  rw [ofIndex_injective hsurah, ofIndex_injective hayah, Option.map_injective ofIndex_injective hword,
    Option.map_injective ofIndex_injective hletter]

theorem quran_some {text : Text} {surah ayah : Nat} {words : List String}
    (h : text.ayahWords surah ayah = some words) :
    text.quran surah ayah = some (words.map fun word => (text.graphemes word).length) := by
  unfold Text.quran
  rw [h]
  rfl

/-- What is resolved is the place that the reference names. -/
theorem resolve_ok {text : Text} {ref : PartRef} {part : Part} (h : resolve text ref = .ok part) :
    ref = part.toRef ∧ InText text.quran part := by
  obtain ⟨s, a, w, l⟩ := ref
  obtain ⟨surah, hsurah, h⟩ := bind_ok_iff.1 h
  rw [orThrow_ok_iff, Option.filter_eq_some_iff, isIndex_eq_some, decide_eq_true_eq] at hsurah
  obtain ⟨⟨ayah, words⟩, hayah, h⟩ := bind_ok_iff.1 h
  rw [orThrow_ok_iff, Option.bind_eq_some_iff] at hayah
  obtain ⟨ayah', hayah, hwords⟩ := hayah
  rw [Option.filter_eq_some_iff, isIndex_eq_some, decide_eq_true_eq] at hayah
  obtain ⟨words', hwords, hpair⟩ := Option.map_eq_some_iff.1 hwords
  cases hpair
  obtain ⟨rfl, hsurah⟩ := hsurah
  obtain ⟨rfl, hayah⟩ := hayah
  cases w with
  | none =>
    obtain ⟨u, hletter, h⟩ := bind_ok_iff.1 h
    rw [ensure_ok_iff] at hletter
    cases h
    subst hletter
    exact ⟨rfl, hsurah, hayah, _, quran_some hwords, rfl⟩
  | some w =>
    obtain ⟨⟨i, word⟩, hword, h⟩ := bind_ok_iff.1 h
    rw [orThrow_ok_iff, Option.bind_eq_some_iff] at hword
    obtain ⟨i', hi, hword⟩ := hword
    rw [isIndex_eq_some] at hi
    obtain ⟨word', hword, hpair⟩ := Option.map_eq_some_iff.1 hword
    cases hpair
    subst hi
    have hlength : (words.map fun word => (text.graphemes word).length)[i]? = some (text.graphemes word).length := by
      rw [List.getElem?_map, hword]
      rfl
    cases l with
    | none =>
      cases h
      exact ⟨rfl, hsurah, hayah, _, quran_some hwords, _, hlength, by simp⟩
    | some l =>
      obtain ⟨j, hj, h⟩ := bind_ok_iff.1 h
      rw [orThrow_ok_iff, Option.filter_eq_some_iff, isIndex_eq_some, decide_eq_true_eq] at hj
      cases h
      obtain ⟨rfl, hj⟩ := hj
      refine ⟨rfl, hsurah, hayah, _, quran_some hwords, _, hlength, fun letter hletter => ?_⟩
      rw [← Option.mem_some.1 hletter]
      exact hj

/-- Every place of the text is resolved from its reference. -/
theorem resolve_toRef {text : Text} {part : Part} (h : InText text.quran part) :
    resolve text part.toRef = .ok part := by
  obtain ⟨surah, ayah, word, letter⟩ := part
  obtain ⟨hsurah, hayah, lengths, hlengths, hplace⟩ := h
  obtain ⟨words, hwords, rfl⟩ := Option.map_eq_some_iff.1 hlengths
  have hs : (isIndex (ofIndex surah)).filter (fun n => decide (1 ≤ n ∧ n ≤ 114)) = some surah := by
    rw [isIndex_ofIndex, Option.filter_some, if_pos (decide_eq_true hsurah)]
  have ha : (((isIndex (ofIndex ayah)).filter fun n => decide (1 ≤ n)).bind fun ayah =>
      (text.ayahWords surah ayah).map fun words => (ayah, words)) = some (ayah, words) := by
    rw [isIndex_ofIndex, Option.filter_some, if_pos (decide_eq_true hayah), Option.bind_some, hwords]
    rfl
  unfold resolve
  simp only [Part.toRef, hs, ha, orThrow, ok_bind]
  cases word with
  | none =>
    cases letter with
    | none => rfl
    | some letter => cases hplace
  | some word =>
    obtain ⟨letters, hletters, hletter⟩ := hplace
    rw [List.getElem?_map] at hletters
    obtain ⟨w, hw, rfl⟩ := Option.map_eq_some_iff.1 hletters
    simp only [Option.map_some, isIndex_ofIndex, Option.bind_some, hw, ok_bind]
    cases letter with
    | none => rfl
    | some letter =>
      simp only [Option.map_some, isIndex_ofIndex, Option.filter_some, hletter letter rfl, decide_true, if_true,
        ok_bind]
      rfl

/-- A reference names a place of the text, or it is refused. -/
theorem resolve_ok_iff {text : Text} {ref : PartRef} {part : Part} :
    resolve text ref = .ok part ↔ ref = part.toRef ∧ InText text.quran part := by
  constructor
  · exact resolve_ok
  · rintro ⟨rfl, h⟩
    exact resolve_toRef h

/-! ## Keys and the order -/

/-- The text before the first colon, and what follows, are told apart. -/
theorem colon_inj : ∀ {xs ys rest rest' : List Char}, ':' ∉ xs → ':' ∉ ys → xs ++ ':' :: rest = ys ++ ':' :: rest' →
    xs = ys ∧ rest = rest'
  | [], [], _, _, _, _, h => ⟨rfl, (List.cons.inj h).2⟩
  | [], y :: ys, _, _, _, hys, h => absurd ((List.cons.inj h).1 ▸ List.mem_cons_self) hys
  | x :: xs, [], _, _, hxs, _, h => absurd ((List.cons.inj h).1.symm ▸ List.mem_cons_self) hxs
  | x :: xs, y :: ys, _, _, hxs, hys, h => by
    obtain ⟨rfl, htail⟩ := List.cons.inj h
    obtain ⟨rfl, hrest⟩ := colon_inj (fun hm => hxs (List.mem_cons_of_mem _ hm))
      (fun hm => hys (List.mem_cons_of_mem _ hm)) htail
    exact ⟨rfl, hrest⟩

theorem toList_toString (n : Nat) : (toString n).toList = Nat.toDigits 10 n := Nat.toList_repr

theorem toString_inj {m n : Nat} (h : (toString m).toList = (toString n).toList) : m = n := by
  rw [toList_toString, toList_toString] at h
  exact toDigits_inj h

theorem colon_not_mem_toString (n : Nat) : ':' ∉ (toString n).toList := by
  intro h
  rw [toList_toString] at h
  have hdigit := Nat.isDigit_of_mem_toDigits (b := 10) (by decide) (by decide) h
  cases hdigit

theorem colon_not_mem_printed (position : Option Nat) : ':' ∉ (printed position).toList := by
  cases position with
  | none => simp [printed]
  | some n => exact colon_not_mem_toString n

theorem printed_inj {a b : Option Nat} (h : (printed a).toList = (printed b).toList) : a = b := by
  have hsome : ∀ n : Nat, (printed (some n)).toList ≠ (printed none).toList := by
    intro n hn
    have hempty : Nat.toDigits 10 n = [] := (toList_toString n).symm.trans hn
    have hpos : 0 < (Nat.toDigits 10 n).length := Nat.length_toDigits_pos
    rw [hempty] at hpos
    cases hpos
  cases a with
  | none =>
    cases b with
    | none => rfl
    | some n => exact absurd h.symm (hsome n)
  | some m =>
    cases b with
    | none => exact absurd h (hsome m)
    | some n => rw [toString_inj h]

theorem toList_key (part : Part) : part.key.toList = (toString part.surahNumber).toList ++
    ':' :: ((toString part.ayahNumber).toList ++ ':' :: ((printed part.wordIndex).toList ++
      ':' :: (printed part.letterIndex).toList)) := by
  unfold Part.key
  simp [String.toList_append]

/-- Two places have one key only if they are one. -/
theorem key_injective : Function.Injective Part.key := by
  intro a b h
  have hchars := congrArg String.toList h
  rw [toList_key, toList_key] at hchars
  obtain ⟨hsurah, hchars⟩ := colon_inj (colon_not_mem_toString _) (colon_not_mem_toString _) hchars
  obtain ⟨hayah, hchars⟩ := colon_inj (colon_not_mem_toString _) (colon_not_mem_toString _) hchars
  obtain ⟨hword, hletter⟩ := colon_inj (colon_not_mem_printed _) (colon_not_mem_printed _) hchars
  obtain ⟨surah, ayah, word, letter⟩ := a
  obtain ⟨surah', ayah', word', letter'⟩ := b
  simp only at hsurah hayah hword hletter
  rw [toString_inj hsurah, toString_inj hayah, printed_inj hword, printed_inj hletter]

theorem rank_eq (position : Option Nat) : rank position = ((position.map (· + 1)).getD 0 : Nat) - 1 := by
  cases position with
  | none => rfl
  | some n =>
    show (n : Int) = ((n + 1 : Nat) : Int) - 1
    omega

theorem orElse_pos {a b : Int} : 0 < orElse a b ↔ 0 < a ∨ (a = 0 ∧ 0 < b) := by
  unfold orElse
  split <;> omega

/-- The comparison is by the positions, the first that differ decide. -/
theorem compareParts_nonpos {a b : Part} : compareParts a b ≤ 0 ↔ a.rank ≤ b.rank := by
  rw [← not_lt, ← not_lt, not_iff_not]
  unfold compareParts Part.rank
  simp only [orElse_pos, rank_eq, List.cons_lt_cons_iff, List.not_lt_nil, and_false, or_false]
  omega

instance rankTotal : Std.Total fun a b : Part => compareParts a b ≤ 0 :=
  ⟨fun a b => by simpa only [compareParts_nonpos] using le_total a.rank b.rank⟩

instance rankTrans : IsTrans Part fun a b => compareParts a b ≤ 0 :=
  ⟨fun a b c => by simpa only [compareParts_nonpos] using le_trans⟩

theorem rank_injective : Function.Injective Part.rank := by
  rintro ⟨surah, ayah, word, letter⟩ ⟨surah', ayah', word', letter'⟩ h
  simp only [Part.rank, List.cons.injEq, and_true] at h
  obtain ⟨rfl, rfl, hword, hletter⟩ := h
  have hinj : ∀ {a b : Option Nat}, (a.map (· + 1)).getD 0 = (b.map (· + 1)).getD 0 → a = b := by
    intro a b hab
    cases a <;> cases b <;> simp at hab ⊢
    exact hab
  rw [hinj hword, hinj hletter]

instance rankAntisymm : Std.Antisymm fun a b : Part => compareParts a b ≤ 0 :=
  ⟨fun _ _ hab hba =>
    rank_injective (le_antisymm (compareParts_nonpos.1 hab) (compareParts_nonpos.1 hba))⟩

/-! ## What is normalised -/

/-- The whole ayah of a word or a letter, or the whole word of a letter. -/
def Part.Holds (whole part : Part) : Prop :=
  whole.surahNumber = part.surahNumber ∧ whole.ayahNumber = part.ayahNumber ∧
    ((whole.wordIndex = none ∧ part.wordIndex ≠ none) ∨
      (whole.wordIndex = part.wordIndex ∧ whole.letterIndex = none ∧ part.letterIndex ≠ none))

/-- In reading order the whole comes before its pieces. -/
theorem Part.Holds.lt {whole part : Part} (h : whole.Holds part) : whole.rank < part.rank := by
  obtain ⟨surah, ayah, word, letter⟩ := whole
  obtain ⟨surah', ayah', word', letter'⟩ := part
  obtain ⟨hsurah, hayah, hpiece⟩ := h
  simp only at hsurah hayah hpiece
  subst hsurah hayah
  unfold Part.rank
  simp only [List.cons_lt_cons_iff, true_and, lt_irrefl, false_or, and_false, or_false]
  rcases hpiece with ⟨rfl, hword⟩ | ⟨rfl, rfl, hletter⟩
  · obtain ⟨n, rfl⟩ := Option.ne_none_iff_exists'.1 hword
    simp
  · obtain ⟨n, rfl⟩ := Option.ne_none_iff_exists'.1 hletter
    simp

theorem mapM_resolve {text : Text} : ∀ {parts : List PartRef} {out : List Part},
    parts.mapM (resolve text) = .ok out ↔ parts = out.map Part.toRef ∧ ∀ part ∈ out, InText text.quran part
  | [], out => by
    constructor
    · intro h
      cases h
      simp
    · rintro ⟨h, -⟩
      rw [List.map_eq_nil_iff.1 h.symm]
      rfl
  | ref :: parts, out => by
    rw [List.mapM_cons]
    constructor
    · intro h
      obtain ⟨part, hpart, h⟩ := bind_ok_iff.1 h
      obtain ⟨rest, hrest, h⟩ := bind_ok_iff.1 h
      cases h
      obtain ⟨rfl, hin⟩ := resolve_ok_iff.1 hpart
      obtain ⟨rfl, hall⟩ := mapM_resolve.1 hrest
      exact ⟨rfl, List.forall_mem_cons.2 ⟨hin, hall⟩⟩
    · rintro ⟨h, hin⟩
      cases out with
      | nil => cases h
      | cons part rest =>
        obtain ⟨rfl, rfl⟩ := List.cons.inj h
        obtain ⟨hpart, hrest⟩ := List.forall_mem_cons.1 hin
        rw [resolve_toRef hpart, ok_bind, mapM_resolve.2 ⟨rfl, hrest⟩]
        rfl

/-- What comes out for references that name places. -/
theorem validateParts_ok_iff {text : Text} {parts : List PartRef} {max : Int} {out : List Part} :
    validateParts text parts max = .ok out ↔ parts ≠ [] ∧ parts.length ≤ max ∧
      ∃ places : List Part, parts = places.map Part.toRef ∧ (∀ part ∈ places, InText text.quran part) ∧
        out = Canonical.canonical Part.key (fun a b => compareParts a b ≤ 0) places := by
  unfold validateParts
  constructor
  · intro h
    obtain ⟨u, hsome, h⟩ := bind_ok_iff.1 h
    obtain ⟨u', hfew, h⟩ := bind_ok_iff.1 h
    obtain ⟨places, hplaces, h⟩ := bind_ok_iff.1 h
    rw [ensure_ok_iff] at hsome hfew
    obtain ⟨hparts, hin⟩ := mapM_resolve.1 hplaces
    cases h
    exact ⟨hsome, hfew, places, hparts, hin, rfl⟩
  · rintro ⟨hsome, hfew, places, hparts, hin, rfl⟩
    refine bind_ok_iff.2 ⟨(), ensure_ok_iff.2 hsome, bind_ok_iff.2 ⟨(), ensure_ok_iff.2 hfew, ?_⟩⟩
    exact bind_ok_iff.2 ⟨places, mapM_resolve.2 ⟨hparts, hin⟩, rfl⟩

theorem increasing_iff {out : List Part} : Canonical.Increasing (fun a b => compareParts a b ≤ 0) out ↔
    out.Pairwise fun a b => a.rank < b.rank := by
  unfold Canonical.Increasing
  refine List.Pairwise.iff fun a b => ?_
  show compareParts a b ≤ 0 ∧ a ≠ b ↔ a.rank < b.rank
  rw [compareParts_nonpos, lt_iff_le_and_ne, ne_eq, ne_eq, rank_injective.eq_iff]

/-- References that name places are the references of these places. -/
theorem exists_places {text : Text} : ∀ {parts : List PartRef},
    (∀ ref ∈ parts, ∃ part, ref = part.toRef ∧ InText text.quran part) →
    ∃ places : List Part, parts = places.map Part.toRef ∧ ∀ part ∈ places, InText text.quran part
  | [], _ => ⟨[], rfl, by simp⟩
  | ref :: parts, h => by
    obtain ⟨hfirst, hrest⟩ := List.forall_mem_cons.1 h
    obtain ⟨part, rfl, hpart⟩ := hfirst
    obtain ⟨places, rfl, hplaces⟩ := exists_places hrest
    exact ⟨part :: places, rfl, List.forall_mem_cons.2 ⟨hpart, hplaces⟩⟩

/-- One list of parts gives what another does, if the references are the same and not too many. -/
theorem validateParts_congr {text : Text} {parts parts' : List PartRef} {max : Int} {out : List Part}
    (h : validateParts text parts max = .ok out) (hparts : ∀ ref, ref ∈ parts' ↔ ref ∈ parts)
    (hfew : parts'.length ≤ max) : validateParts text parts' max = .ok out := by
  obtain ⟨hsome, -, places, rfl, hin, rfl⟩ := validateParts_ok_iff.1 h
  obtain ⟨places', rfl, hin'⟩ : ∃ places' : List Part, parts' = places'.map Part.toRef ∧
      ∀ part ∈ places', InText text.quran part := by
    refine exists_places fun ref href => ?_
    obtain ⟨part, hpart, rfl⟩ := List.mem_map.1 ((hparts ref).1 href)
    exact ⟨part, rfl, hin part hpart⟩
  -- a list that increases is determined by its members
  have hmem : ∀ part, part ∈ places ↔ part ∈ places' := by
    intro part
    have href := hparts part.toRef
    rwa [List.mem_map_of_injective toRef_injective, List.mem_map_of_injective toRef_injective, iff_comm] at href
  refine validateParts_ok_iff.2 ⟨?_, hfew, places', rfl, hin', ?_⟩
  · rintro hnil
    rw [hnil] at hparts
    exact hsome (List.eq_nil_iff_forall_not_mem.2 fun ref href => List.not_mem_nil ((hparts ref).2 href))
  · refine Canonical.canonical_unique key_injective (Canonical.canonical_increasing key_injective places')
      fun part => ?_
    rw [hmem, Canonical.mem_canonical key_injective]

/-- Parts are accepted if and only if they are some, not too many, and name places; then the places come out,
each once and in reading order, whatever the order of the parts, and coming in again they are left as they are. -/
theorem validateParts_spec (text : Text) (parts : List PartRef) (max : Int) :
    ((∃ out, validateParts text parts max = .ok out) ↔ 1 ≤ parts.length ∧ parts.length ≤ max ∧
      ∀ ref ∈ parts, ∃ part, ref = part.toRef ∧ InText text.quran part) ∧
    ∀ out, validateParts text parts max = .ok out →
      (∀ part, part ∈ out ↔ part.toRef ∈ parts) ∧ out.Nodup ∧
      (out.Pairwise fun a b => a.rank < b.rank ∧ ¬ b.Holds a) ∧
      (∀ parts', (∀ ref, ref ∈ parts' ↔ ref ∈ parts) → parts'.length ≤ max →
        validateParts text parts' max = .ok out) ∧
      validateParts text (out.map Part.toRef) max = .ok out := by
  constructor
  · simp only [validateParts_ok_iff]
    constructor
    · rintro ⟨out, hsome, hfew, places, rfl, hin, -⟩
      refine ⟨List.length_pos_iff.2 hsome, hfew, fun ref href => ?_⟩
      obtain ⟨part, hpart, rfl⟩ := List.mem_map.1 href
      exact ⟨part, rfl, hin part hpart⟩
    · rintro ⟨hsome, hfew, hnamed⟩
      obtain ⟨places, hparts, hin⟩ := exists_places hnamed
      exact ⟨_, List.length_pos_iff.1 hsome, hfew, places, hparts, hin, rfl⟩
  · intro out h
    obtain ⟨-, hfew, places, rfl, hin, hout⟩ := validateParts_ok_iff.1 h
    have hincreasing : Canonical.Increasing (fun a b => compareParts a b ≤ 0) out := by
      rw [hout]
      exact Canonical.canonical_increasing key_injective places
    have hnodup : out.Nodup := hincreasing.imp fun hab => hab.2
    have hmem : ∀ part, part ∈ out ↔ part ∈ places := by
      intro part
      rw [hout]
      exact Canonical.mem_canonical key_injective
    have hrefs : ∀ part, part ∈ out ↔ part.toRef ∈ places.map Part.toRef := by
      intro part
      rw [hmem, List.mem_map_of_injective toRef_injective]
    refine ⟨hrefs, hnodup, ?_, fun parts' hparts' hfew' => validateParts_congr h hparts' hfew', ?_⟩
    · exact (increasing_iff.1 hincreasing).imp fun hab => ⟨hab, fun hholds => lt_asymm hab hholds.lt⟩
    · refine validateParts_congr h (fun ref => ?_) ?_
      · simp only [List.mem_map, hmem]
      · -- nothing was added to the places
        have hle : out.length ≤ places.length :=
          (List.subperm_of_subset hnodup fun part hpart => (hmem part).1 hpart).length_le
        rw [List.length_map] at hfew ⊢
        omega

/-! ## The model of a mark's life -/

theorem checkPart_of {quran : Quran} {part : Part} (h : InText quran part) : checkPart quran part = .ok () := by
  obtain ⟨hsurah, hayah, words, hwords, hplace⟩ := h
  unfold checkPart
  refine bind_ok_iff.2 ⟨(), ensure_ok_iff.2 hsurah, bind_ok_iff.2 ⟨words, orThrow_ok_iff.2 ?_, ?_⟩⟩
  · rw [if_neg (by omega), hwords]
  · cases hword : part.wordIndex with
    | none =>
      rw [hword] at hplace
      exact ensure_ok_iff.2 hplace
    | some word =>
      rw [hword] at hplace
      obtain ⟨letters, hletters, hletter⟩ := hplace
      refine bind_ok_iff.2 ⟨letters, orThrow_ok_iff.2 hletters, ?_⟩
      cases hl : part.letterIndex with
      | none => rfl
      | some letter => exact ensure_ok_iff.2 (hletter letter hl)

theorem forM_of {quran : Quran} : ∀ {parts : List Part}, (∀ part ∈ parts, InText quran part) →
    parts.forM (checkPart quran) = .ok ()
  | [], _ => rfl
  | part :: parts, h => by
    obtain ⟨hpart, hparts⟩ := List.forall_mem_cons.1 h
    exact bind_ok_iff.2 ⟨(), checkPart_of hpart, forM_of hparts⟩

theorem checkParts_ok_iff {quran : Quran} {parts out : List Part} : checkParts quran parts = .ok out ↔
    parts ≠ [] ∧ parts.length ≤ maxParts ∧ (∀ part ∈ parts, InText quran part) ∧
      out = (parts.reverse.dedup.reverse).insertionSort fun a b => a.rank ≤ b.rank := by
  unfold checkParts
  constructor
  · intro h
    obtain ⟨u, hsome, h⟩ := bind_ok_iff.1 h
    obtain ⟨u', hfew, h⟩ := bind_ok_iff.1 h
    obtain ⟨u'', hplaces, h⟩ := bind_ok_iff.1 h
    rw [ensure_ok_iff] at hsome hfew
    cases h
    exact ⟨hsome, hfew, forM_ok hplaces, rfl⟩
  · rintro ⟨hsome, hfew, hin, rfl⟩
    refine bind_ok_iff.2 ⟨(), ensure_ok_iff.2 hsome, bind_ok_iff.2 ⟨(), ensure_ok_iff.2 hfew, ?_⟩⟩
    exact bind_ok_iff.2 ⟨(), forM_of hin, rfl⟩

/-- It checks its parts, which have whole numbers, in the same way. -/
theorem checkParts_iff {text : Text} {parts out : List Part} : checkParts text.quran parts = .ok out ↔
    validateParts text (parts.map Part.toRef) maxParts = .ok out := by
  rw [validateParts_ok_iff, checkParts_ok_iff]
  have hsorted : Canonical.canonical Part.key (fun a b => compareParts a b ≤ 0) parts =
      (parts.reverse.dedup.reverse).insertionSort fun a b => a.rank ≤ b.rank := by
    have htotal : Std.Total fun a b : Part => a.rank ≤ b.rank := ⟨fun a b => le_total a.rank b.rank⟩
    have htrans : IsTrans Part fun a b => a.rank ≤ b.rank := ⟨fun _ _ _ hab hbc => le_trans hab hbc⟩
    refine Canonical.canonical_unique key_injective ?_ fun part => by simp
    have hordered := List.pairwise_insertionSort (fun a b : Part => a.rank ≤ b.rank) parts.reverse.dedup.reverse
    have hnodup : ((parts.reverse.dedup.reverse).insertionSort fun a b => a.rank ≤ b.rank).Nodup :=
      (List.perm_insertionSort _ _).nodup_iff.2 (List.nodup_reverse.2 (List.nodup_dedup _))
    exact (hordered.imp fun hab => compareParts_nonpos.2 hab).and hnodup
  constructor
  · rintro ⟨hsome, hfew, hin, rfl⟩
    refine ⟨by simpa using hsome, ?_, parts, rfl, hin, hsorted.symm⟩
    rw [List.length_map]
    omega
  · rintro ⟨hsome, hfew, places, hplaces, hin, rfl⟩
    obtain rfl := List.map_injective_iff.2 toRef_injective hplaces
    rw [List.length_map] at hfew
    exact ⟨by simpa using hsome, by omega, hin, hsorted⟩

namespace Example

/-- The first two ayahs of al-Falaq, in Latin letters. -/
def text : Text where
  ayahWords surah ayah :=
    if surah = 113 then [["qul", "audhu", "birabbi", "alfalaq"], ["min", "sharri", "ma", "khalaq"]][ayah - 1]? else none
  graphemes word := word.toList.map fun c => String.ofList [c]

def refs : List PartRef :=
  [⟨.finite 113, .finite 2, some (.finite 3), some (.finite 1)⟩, ⟨.finite 113, .finite 1, some (.finite 0), none⟩,
    ⟨.finite 113, .finite 2, none, none⟩, ⟨.finite 113, .finite 1, some (.finite 0), none⟩]

end Example

open Example in
theorem refs_validated : validateParts text refs 64 =
      .ok [⟨113, 1, some 0, none⟩, ⟨113, 2, none, none⟩, ⟨113, 2, some 3, some 1⟩] ∧
    validateParts text refs.reverse 64 = validateParts text refs 64 := by
  have hok : validateParts text refs 64 =
      .ok [⟨113, 1, some 0, none⟩, ⟨113, 2, none, none⟩, ⟨113, 2, some 3, some 1⟩] := by
    decide
  refine ⟨hok, ?_⟩
  obtain ⟨-, -, -, hany, -⟩ := (validateParts_spec text refs 64).2 _ hok
  rw [hok]
  exact hany refs.reverse (fun ref => List.mem_reverse) (by decide)

end Livetich.Tajweed
