/-
Strings as the language has them: UTF-16 units, in which a cut may leave half of a character. What is told of the units
of a text by what is told of its characters, and what is stored of a text that has been cut.
-/
import Livetich.Js.Text
import Livetich.Lib.Passes
import Livetich.Lib.Utf8

namespace Livetich.Js

open Livetich.Lib
open Livetich.Code (jsLength)

/-- The UTF-16 units of a text. -/
def textUnits (s : String) : List UInt16 := s.toList.flatMap fun c => Utf8.units c.toNat

namespace Units

def isSpaceCode (n : Nat) : Bool :=
  (9 ≤ n && n ≤ 13) || n = 0x20 || n = 0xA0 || n = 0x1680 || (0x2000 ≤ n && n ≤ 0x200A) ||
    n = 0x2028 || n = 0x2029 || n = 0x202F || n = 0x205F || n = 0x3000 || n = 0xFEFF

def isSpace (u : UInt16) : Bool := isSpaceCode u.toNat

def trim (text : List UInt16) : List UInt16 := trimBy isSpace text

/-- `slice(0, n)`. -/
def slice (text : List UInt16) (n : Nat) : List UInt16 := text.take n

/-- The first half of a character that needs two units. -/
def IsHigh (u : UInt16) : Prop := 0xD800 ≤ u.toNat ∧ u.toNat < 0xDC00

instance (u : UInt16) : Decidable (IsHigh u) := inferInstanceAs (Decidable (_ ∧ _))

/-- What is stored of a text that may end in half of a character: UTF-8 has the replacement character for it. -/
def mend (text : List UInt16) : List UInt16 :=
  if ∃ u ∈ text.getLast?, IsHigh u then text.dropLast ++ [Utf8.replacement] else text

/-! ## One character -/

def ofChar (c : Char) : List UInt16 := Utf8.units c.toNat

theorem ofChar_small {c : Char} (h : c.toNat < 0x10000) : ofChar c = [.ofNat c.toNat] := if_pos h

theorem toNat_small {c : Char} (h : c.toNat < 0x10000) : (UInt16.ofNat c.toNat).toNat = c.toNat := by
  rw [UInt16.toNat_ofNat']
  omega

theorem ofChar_large {c : Char} (h : ¬c.toNat < 0x10000) :
    ∃ high low, ofChar c = [high, low] ∧ IsHigh high ∧ 0xDC00 ≤ low.toNat ∧ low.toNat < 0xE000 := by
  have hvalid : c.toNat < 0xD800 ∨ (0xDFFF < c.toNat ∧ c.toNat < 0x110000) := c.valid
  refine ⟨_, _, if_neg h, ?_⟩
  unfold IsHigh
  rw [UInt16.toNat_ofNat', UInt16.toNat_ofNat']
  omega

theorem ofChar_ne_nil (c : Char) : ofChar c ≠ [] := by
  unfold ofChar Utf8.units
  split <;> exact List.cons_ne_nil _ _

theorem length_ofChar (c : Char) : (ofChar c).length = jsLength [c] := by
  unfold ofChar Utf8.units jsLength
  rw [List.map_singleton, List.sum_singleton]
  split <;> rfl

/-- A test that no half of a character passes, nor any character of two halves, is one of characters too. -/
theorem test_ofChar (test : Nat → Bool) (hhalf : ∀ n, 0xD800 ≤ n → n < 0xE000 → test n = false)
    (hlarge : ∀ n, 0x10000 ≤ n → test n = false) (c : Char) : ∀ u ∈ ofChar c, test u.toNat = test c.toNat := by
  intro u hu
  by_cases hsmall : c.toNat < 0x10000
  · rw [ofChar_small hsmall, List.mem_singleton] at hu
    rw [hu, toNat_small hsmall]
  · obtain ⟨high, low, heq, hhigh, hlow⟩ := ofChar_large hsmall
    unfold IsHigh at hhigh
    rw [hlarge c.toNat (by omega)]
    rw [heq] at hu
    rcases List.mem_cons.1 hu with rfl | hu
    · exact hhalf _ hhigh.1 (by omega)
    · rw [List.mem_singleton.1 hu]
      exact hhalf _ (by omega) hlow.2

theorem isSpace_ofChar (c : Char) : ∀ u ∈ ofChar c, isSpace u = Js.isSpace c :=
  test_ofChar isSpaceCode (by intro n; grind [isSpaceCode]) (by intro n; grind [isSpaceCode]) c

/-- A small character is a unit of no other. -/
theorem eq_of_mem_ofChar {c d : Char} (hd : d.toNat < 0xD800) (h : .ofNat d.toNat ∈ ofChar c) : c = d := by
  have htest := test_ofChar (fun n => n = d.toNat) (by grind) (by grind) c _ h
  rw [toNat_small (by omega)] at htest
  exact Char.toNat_inj.1 (by simpa using htest.symm)

theorem brackets_ofChar {o c : Char} (ho : o.toNat < 0xD800) (hc : c.toNat < 0xD800) :
    Brackets ofChar o c (.ofNat o.toNat) (.ofNat c.toNat) where
  opening := ofChar_small (by omega)
  closing := ofChar_small (by omega)
  opens _ := eq_of_mem_ofChar ho
  closes _ := eq_of_mem_ofChar hc

/-! ## Texts -/

theorem trim_flatMap (cs : List Char) : trim (cs.flatMap ofChar) = (Js.trim cs).flatMap ofChar :=
  trimBy_flatMap ofChar_ne_nil isSpace_ofChar cs

theorem length_flatMap (cs : List Char) : (cs.flatMap ofChar).length = jsLength cs := by
  induction cs with
  | nil => rfl
  | cons c cs ih => rw [List.flatMap_cons, List.length_append, length_ofChar, ih, jsLength_cons c cs]

theorem mend_concat (text : List UInt16) (u : UInt16) :
    mend (text ++ [u]) = text ++ [if IsHigh u then Utf8.replacement else u] := by
  unfold mend
  rw [List.getLast?_concat, List.dropLast_concat]
  by_cases hu : IsHigh u
  · rw [if_pos ⟨u, rfl, hu⟩, if_pos hu]
  · rw [if_neg (by rintro ⟨v, hv, hhigh⟩; cases hv; exact hu hhigh), if_neg hu]

theorem mend_eq_nil {text : List UInt16} : mend text = [] ↔ text = [] := by
  rcases List.eq_nil_or_concat' text with rfl | ⟨l, u, rfl⟩
  · exact iff_of_true rfl rfl
  · rw [mend_concat]
    simp

theorem mend_ofChar (c : Char) : mend (ofChar c) = ofChar c := by
  by_cases hsmall : c.toNat < 0x10000
  · have hvalid : c.toNat < 0xD800 ∨ (0xDFFF < c.toNat ∧ c.toNat < 0x110000) := c.valid
    have hhigh : ¬IsHigh (.ofNat c.toNat) := by
      unfold IsHigh
      rw [toNat_small hsmall]
      omega
    rw [ofChar_small hsmall]
    exact (mend_concat [] _).trans (by rw [if_neg hhigh]; rfl)
  · obtain ⟨high, low, heq, -, hlow⟩ := ofChar_large hsmall
    have hhigh : ¬IsHigh low := by
      unfold IsHigh
      omega
    rw [heq]
    exact (mend_concat [high] low).trans (by rw [if_neg hhigh]; rfl)

theorem mend_append (c : Char) (text : List UInt16) : mend (ofChar c ++ text) = ofChar c ++ mend text := by
  rcases List.eq_nil_or_concat' text with rfl | ⟨l, u, rfl⟩
  · rw [List.append_nil, mend_ofChar]
    exact (List.append_nil _).symm
  · rw [← List.append_assoc, mend_concat, mend_concat, List.append_assoc]

/-- What is stored of a text that is cut. -/
theorem mend_slice (cs : List Char) (n : Nat) :
    mend (slice (cs.flatMap ofChar) n) = (Js.slice cs n).flatMap ofChar := by
  unfold slice
  fun_induction Js.slice cs n with
  | case1 n => rw [List.flatMap_nil, List.take_nil]; rfl
  | case2 c cs => rw [List.take_zero]; rfl
  | case3 c cs n h ih =>
    rw [← length_ofChar] at h ih
    rw [List.flatMap_cons, List.flatMap_cons, List.take_append, List.take_of_length_le h, mend_append, ih,
      length_ofChar]
  | case4 c cs n h =>
    -- One unit is left for a character of two.
    have hsmall : ¬c.toNat < 0x10000 := fun hsmall => by
      rw [← length_ofChar, ofChar_small hsmall] at h
      exact h (by simp)
    obtain ⟨high, low, heq, hhigh, -⟩ := ofChar_large hsmall
    have hn : n = 0 := by
      rw [← length_ofChar, heq] at h
      simp at h
      omega
    rw [List.flatMap_cons, heq, hn]
    exact (mend_concat [] high).trans (by rw [if_pos hhigh]; rfl)

end Units

end Livetich.Js
