/-
Cleaned text stays clean: `cleanText` on strings as the language has them, units of UTF-16 of which any may come after
any other. What it leaves has no tag and no control character, however they stood in each other's way.
-/
import Livetich.Js.Units
import Livetich.Tajweed.Frame

namespace Livetich.Tajweed.Clean

open Livetich.Lib Livetich.Js.Units
open Livetich.Js (textUnits)

/-! ## The passes -/

/-- `replace(/<[^>]*>/g, '')`: a tag runs to the next closing bracket, whatever is in it; without one it is none. -/
def dropTags (text : List UInt16) : List UInt16 := dropSpans 0x3C 0x3E false text

def isControlCode (n : Nat) : Bool := n ≤ 8 || n = 11 || n = 12 || (14 ≤ n && n ≤ 31) || n = 127

/-- `[\u0000-\u0008\u000B\u000C\u000E-\u001F\u007F]`. -/
def isControl (u : UInt16) : Bool := isControlCode u.toNat

/-- What a value comes to that may be anything; `none` where it is no string. -/
def cleanText (value : Option (List UInt16)) (max : Nat) : Option (List UInt16) :=
  match value with
  | none => none
  | some text =>
    let cleaned := slice (trim ((dropTags text).filter fun u => !isControl u)) max
    if cleaned = [] then none else some cleaned

/-- The passes before the cut, each of which leaves clean what the ones before it have cleaned. -/
def scrub : Pass UInt16 :=
  let tags := spanPass 0x3C 0x3E
  let controls := filterPass fun u => !isControl u
  (tags.andThen controls (spanless_hereditary 0x3C 0x3E)).andThen (trimPass isSpace)
    ((spanless_hereditary 0x3C 0x3E).and (forall_mem_hereditary _))

theorem cleanText_some {text cleaned : List UInt16} {max : Nat} :
    cleanText (some text) max = some cleaned ↔ cleaned ≠ [] ∧ (scrub.run text).take max = cleaned := by
  show (if (scrub.run text).take max = [] then none else some ((scrub.run text).take max)) = some cleaned ↔ _
  split
  · rename_i hnil
    rw [hnil]
    simp [eq_comm]
  · rename_i hne
    rw [Option.some_inj]
    exact ⟨fun h => ⟨h ▸ hne, h⟩, fun h => h.2⟩

/-! ## What is left -/

/-- Text as it is stored: none is empty, too long, tagged, or has a control character. -/
structure Kept (max : Nat) (text : List UInt16) : Prop where
  nonempty : text ≠ []
  short : text.length ≤ max
  untagged : ∀ before between after, text ≠ before ++ 0x3C :: between ++ 0x3E :: after
  plain : ∀ u ∈ text, (u.toNat < 0x20 → u.toNat = 9 ∨ u.toNat = 10 ∨ u.toNat = 13) ∧ u.toNat ≠ 0x7F

theorem isControl_eq_false {u : UInt16} : isControl u = false ↔
    (u.toNat < 0x20 → u.toNat = 9 ∨ u.toNat = 10 ∨ u.toNat = 13) ∧ u.toNat ≠ 0x7F := by
  unfold isControl isControlCode
  grind

theorem cleanText_kept {value : Option (List UInt16)} {max : Nat} {cleaned : List UInt16}
    (h : cleanText value max = some cleaned) : Kept max cleaned := by
  cases value with
  | none => cases h
  | some text =>
    obtain ⟨hne, rfl⟩ := cleanText_some.1 h
    obtain ⟨⟨htags, hcontrols⟩, -⟩ := scrub.clean text
    have hcut : ((scrub.run text).take max).Sublist (scrub.run text) := List.take_sublist _ _
    refine ⟨hne, List.length_take_le _ _, (spanless_hereditary _ _ hcut htags).split_ne, fun u hu => ?_⟩
    exact isControl_eq_false.1 (by simpa using hcontrols u (hcut.subset hu))

/-- Text that is short enough is not cut. -/
theorem scrub_take {text : List UInt16} {max : Nat} (h : text.length ≤ max) :
    (scrub.run text).take max = scrub.run text :=
  List.take_of_length_le ((scrub.sublist text).length_le.trans h)

theorem cleanText_trimmed {text cleaned : List UInt16} {max : Nat} (hshort : text.length ≤ max)
    (h : cleanText (some text) max = some cleaned) : Trimmed isSpace cleaned := by
  obtain ⟨-, rfl⟩ := cleanText_some.1 h
  rw [scrub_take hshort]
  exact (scrub.clean text).2

theorem cleanText_again {text cleaned : List UInt16} {max : Nat} (hshort : text.length ≤ max)
    (h : cleanText (some text) max = some cleaned) : cleanText (some cleaned) max = some cleaned := by
  obtain ⟨hne, rfl⟩ := cleanText_some.1 h
  refine cleanText_some.2 ⟨hne, ?_⟩
  rw [scrub_take hshort, scrub.run_run, scrub_take hshort]

/-- Whatever is sent, what comes of it is kept text; and where the text was not too long, no white space stands at its
ends, and cleaning it again changes nothing. -/
theorem cleanText_stays (value : Option (List UInt16)) (max : Nat) :
    (∀ cleaned, cleanText value max = some cleaned → Kept max cleaned) ∧
      ((∀ text, value = some text → text.length ≤ max) →
        (∀ cleaned, cleanText value max = some cleaned → Trimmed isSpace cleaned) ∧
          cleanText (cleanText value max) max = cleanText value max) := by
  refine ⟨fun cleaned h => cleanText_kept h, fun hshort => ?_⟩
  cases value with
  | none => exact ⟨fun _ h => (nomatch h), rfl⟩
  | some text =>
    refine ⟨fun cleaned h => cleanText_trimmed (hshort text rfl) h, ?_⟩
    cases hclean : cleanText (some text) max with
    | none => rfl
    | some cleaned => exact cleanText_again (hshort text rfl) hclean

/-- A tag in a tag, one that a control character is in, one without an end, and half of a character. -/
theorem tags_in_tags :
    let text := textUnits " a<b<c>d>e<\u0001i>\u007f <" ++ [0xD83D]
    cleanText (some text) 60 = some (textUnits "ad>e <" ++ [0xD83D]) ∧ Kept 60 (textUnits "ad>e <" ++ [0xD83D]) ∧
      Trimmed isSpace (textUnits "ad>e <" ++ [0xD83D]) ∧
      cleanText (cleanText (some text) 60) 60 = cleanText (some text) 60 := by
  intro text
  have hclean : cleanText (some text) 60 = some (textUnits "ad>e <" ++ [0xD83D]) := by decide
  have hstays := cleanText_stays (some text) 60
  have hshort := hstays.2 (by rintro _ ⟨⟩; decide)
  exact ⟨hclean, hstays.1 _ hclean, hshort.1 _ hclean, hshort.2⟩

/-! ## Text of characters -/

theorem isControl_ofChar (c : Char) : ∀ u ∈ ofChar c, isControl u = Tajweed.isControl c :=
  test_ofChar isControlCode (by intro n; grind [isControlCode]) (by intro n; grind [isControlCode]) c

theorem dropTags_eq : ∀ (fuel : Nat) {cs : List Char}, cs.length ≤ fuel →
    Tajweed.dropTags fuel cs = dropSpans '<' '>' false cs
  | 0, [], _ => rfl
  | _ + 1, [], _ => rfl
  | fuel + 1, c :: cs, h => by
    have hlength : cs.length ≤ fuel := Nat.le_of_succ_le_succ h
    unfold Tajweed.dropTags dropSpans
    by_cases hopen : c = '<'
    · rw [if_pos hopen]
      cases hrest : cs.dropWhile (· ≠ '>') with
      | nil =>
        rw [if_neg fun hspan => Frame.dropWhile_open.1 hrest hspan.2]
        dsimp only
        rw [dropTags_eq fuel hlength]
      | cons close rest =>
        have hmem : '>' ∈ cs := by
          by_contra hmem
          rw [Frame.dropWhile_open.2 hmem] at hrest
          cases hrest
        have hsuffix : (close :: rest) <:+ cs := hrest ▸ List.dropWhile_suffix _
        have hshort : rest.length + 1 ≤ cs.length := hsuffix.length_le
        -- Both go on after the closing bracket.
        rw [if_pos ⟨hopen, hmem⟩, dropSpans_true, hrest]
        exact dropTags_eq fuel (by omega)
    · rw [if_neg hopen, if_neg fun hspan => hopen hspan.1, dropTags_eq fuel hlength]

/-- Units are cleaned as the characters are that they spell. -/
theorem scrub_textUnits (text : String) : scrub.run (textUnits text) =
    (Js.trim ((Tajweed.dropTags text.length text.toList).filter fun c => !Tajweed.isControl c)).flatMap ofChar := by
  have htags : dropTags (textUnits text) = (Tajweed.dropTags text.length text.toList).flatMap ofChar := by
    rw [dropTags_eq _ (le_of_eq String.length_toList)]
    exact dropSpans_flatMap (brackets_ofChar (o := '<') (c := '>') (by decide) (by decide)) false text.toList
  show trim ((dropTags (textUnits text)).filter fun u => !isControl u) = _
  rw [htags, filter_flatMap fun c u hu => by rw [isControl_ofChar c u hu], trim_flatMap]

/-- The requests, whose texts are of characters, are cleaned to what is stored of their units. -/
theorem cleanText_textUnits (text : String) (max : Nat) :
    (Tajweed.cleanText (some text) max).map textUnits = (cleanText (some (textUnits text)) max).map mend := by
  have hcut :=
    mend_slice (Js.trim ((Tajweed.dropTags text.length text.toList).filter fun c => !Tajweed.isControl c)) max
  rw [← scrub_textUnits] at hcut
  unfold Tajweed.cleanText
  rw [Option.map_some, Option.filter_some]
  generalize Js.slice _ max = cs at hcut ⊢
  show _ = Option.map mend (if slice (scrub.run (textUnits text)) max = [] then none
    else some (slice (scrub.run (textUnits text)) max))
  have hempty : slice (scrub.run (textUnits text)) max = [] ↔ String.ofList cs = "" := by
    rw [← mend_eq_nil, hcut, String.ofList_eq_empty_iff]
    cases cs with
    | nil => exact iff_of_true rfl rfl
    | cons c cs =>
      rw [List.flatMap_cons, List.append_eq_nil_iff]
      exact iff_of_false (fun h => ofChar_ne_nil c h.1) (List.cons_ne_nil c cs)
  by_cases hnil : String.ofList cs = ""
  · rw [if_pos (hempty.2 hnil), if_neg (by simpa using hnil)]
    rfl
  · rw [if_neg (mt hempty.1 hnil), if_pos (by simpa using hnil), Option.map_some, Option.map_some, hcut]
    unfold textUnits
    rw [String.toList_ofList]
    rfl

end Livetich.Tajweed.Clean
