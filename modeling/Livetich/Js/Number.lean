/-
JavaScript numbers as the scheduling code reads them: NaN, the infinities and the finite doubles
(`+0` and `-0` are not told apart), and the conversion of a string to a number.
-/
import Mathlib.Algebra.Order.Ring.Rat
import Mathlib.Algebra.Order.Field.Basic
import Mathlib.Data.List.TakeWhile
import Livetich.Lib.Digits

namespace Livetich.Js

open Livetich.Lib (isDigit digits2 digits4)

/-! ## Numbers -/

inductive Number where
  | nan
  | infinity (neg : Bool)
  | finite (q : Rat)
deriving DecidableEq, Repr

def Number.ofInt (n : Int) : Number := .finite (n : Rat)

def Number.isNaN : Number → Bool
  | .nan => true
  | _ => false

/-- The integer a number is, if it is one (`Number.isInteger`). -/
def Number.toInteger : Number → Option Int
  | .finite q => if q.den = 1 then some q.num else none
  | _ => none

@[simp] theorem Number.toInteger_ofInt (n : Int) : (Number.ofInt n).toInteger = some n := rfl

/-- A number is an integer when it is the number of one. -/
theorem Number.toInteger_eq_some {n : Number} {k : Int} : n.toInteger = some k ↔ n = .ofInt k := by
  constructor
  · intro h
    cases n with
    | nan => cases h
    | infinity neg => cases h
    | finite q =>
      simp only [Number.toInteger] at h
      split at h
      · rename_i hden
        cases h
        exact congrArg Number.finite (Rat.ext rfl hden)
      · cases h
  · rintro rfl
    rfl

/-! ## Rounding to a double -/

def pow2 : Int → Rat
  | .ofNat n => (2 ^ n : Nat)
  | .negSucc n => 1 / ((2 ^ (n + 1) : Nat) : Rat)

/-- The exponent `e` with `2 ^ e ≤ q < 2 ^ (e + 1)`, for a positive `q`. -/
def binade (q : Rat) : Int :=
  let e : Int := (Nat.log2 q.num.toNat : Int) - Nat.log2 q.den
  if q < pow2 e then e - 1 else e

def roundHalfEven (q : Rat) : Int :=
  let f := q.floor
  if q - f < 1 / 2 then f
  else if 1 / 2 < q - f then f + 1
  else if f % 2 = 0 then f
  else f + 1

/-- The double nearest to a rational: a 53-bit significand, ties to even, gradual underflow. An
integer of at most 53 bits is a double itself. -/
def Number.round (q : Rat) : Number :=
  if q.den = 1 ∧ q.num.natAbs ≤ 2 ^ 53 then .finite q
  else
    let m := if q < 0 then -q else q
    let e := max (binade m) (-1022) - 52
    let v := (roundHalfEven (m / pow2 e) : Rat) * pow2 e
    if pow2 1024 ≤ v then .infinity (q < 0)
    else .finite (if q < 0 then -v else v)

theorem Number.round_ofNat {n : Nat} (h : n ≤ 2 ^ 53) : Number.round (n : Rat) = .ofInt n :=
  if_pos ⟨rfl, h⟩

/-! ## Arithmetic -/

/-- A number over a positive divisor. -/
def Number.divide (n : Number) (d : Rat) : Number :=
  match n with
  | .finite q => .round (q / d)
  | n => n

/-- `Math.round`: the nearest integer, and the greater one of two equally near. -/
def mathRound : Number → Number
  | .finite q => .ofInt (q + 1 / 2).floor
  | n => n

/-- `Math.trunc`: toward zero. -/
def mathTrunc : Number → Number
  | .finite q => .ofInt (if q < 0 then q.ceil else q.floor)
  | n => n

/-! ## String to number -/

/-- White space and line terminators. -/
def isSpace (c : Char) : Bool :=
  let n := c.toNat
  (9 ≤ n && n ≤ 13) || n = 0x20 || n = 0xA0 || n = 0x1680 || (0x2000 ≤ n && n ≤ 0x200A) ||
    n = 0x2028 || n = 0x2029 || n = 0x202F || n = 0x205F || n = 0x3000 || n = 0xFEFF

def trim (cs : List Char) : List Char :=
  ((cs.dropWhile isSpace).reverse.dropWhile isSpace).reverse

/-- The value of a digit or a letter in a radix up to 36, and 36 for anything else. -/
def radixValue (c : Char) : Nat :=
  if isDigit c then Lib.digitValue c
  else if 'a'.toNat ≤ c.toNat && c.toNat ≤ 'z'.toNat then c.toNat - 'a'.toNat + 10
  else if 'A'.toNat ≤ c.toNat && c.toNat ≤ 'Z'.toNat then c.toNat - 'A'.toNat + 10
  else 36

def ofDigits (base : Nat) (cs : List Char) : Nat :=
  cs.foldl (fun n c => n * base + radixValue c) 0

/-- A literal `0x…`, `0o…` or `0b…` after its prefix. -/
def radixLiteral (base : Nat) (cs : List Char) : Number :=
  if cs.isEmpty || cs.any (fun c => base ≤ radixValue c) then .nan
  else .round (ofDigits base cs : Nat)

/-- The exponent part of a decimal literal, which is the rest of the text. -/
def exponentPart : List Char → Option Int
  | [] => some 0
  | c :: cs =>
    if c = 'e' ∨ c = 'E' then
      let (neg, ds) := match cs with
        | '+' :: ds => (false, ds)
        | '-' :: ds => (true, ds)
        | ds => (false, ds)
      if ds.isEmpty || ds.any (fun d => !isDigit d) then none
      else some (if neg then -(ofDigits 10 ds : Nat) else (ofDigits 10 ds : Nat))
    else none

def pow10 : Int → Rat
  | .ofNat n => (10 ^ n : Nat)
  | .negSucc n => 1 / ((10 ^ (n + 1) : Nat) : Rat)

/-- The value of `digits`, `digits.digits` or `.digits` with an optional exponent. -/
def unsignedDecimal (cs : List Char) : Option Rat :=
  let whole := cs.takeWhile isDigit
  let (fraction, rest) := match cs.dropWhile isDigit with
    | '.' :: rest => (rest.takeWhile isDigit, rest.dropWhile isDigit)
    | rest => ([], rest)
  if whole.isEmpty && fraction.isEmpty then none
  else
    match exponentPart rest with
    | none => none
    | some e =>
      some ((ofDigits 10 (whole ++ fraction) : Nat) * pow10 (e - fraction.length))

def decimalLiteral (neg : Bool) (cs : List Char) : Number :=
  if cs = "Infinity".toList then .infinity neg
  else
    match unsignedDecimal cs with
    | none => .nan
    | some q => .round (if neg then -q else q)

/-- `Number` of the characters of a string. -/
def Number.ofChars (cs : List Char) : Number :=
  match trim cs with
  | [] => .ofInt 0
  | '0' :: 'x' :: ds | '0' :: 'X' :: ds => radixLiteral 16 ds
  | '0' :: 'o' :: ds | '0' :: 'O' :: ds => radixLiteral 8 ds
  | '0' :: 'b' :: ds | '0' :: 'B' :: ds => radixLiteral 2 ds
  | '+' :: ds => decimalLiteral false ds
  | '-' :: ds => decimalLiteral true ds
  | ds => decimalLiteral false ds

def Number.ofString (s : String) : Number :=
  .ofChars s.toList

example : Number.ofString " 1.5e1 " = .ofInt 15 ∧ Number.ofString "0.99999999999999999999" = .ofInt 1 ∧
    Number.ofString "1,2" = .nan := by decide +kernel

/-! ## Digits only -/

theorem digit_not_space {c : Char} (h : isDigit c = true) : isSpace c = false := by
  unfold isDigit at h
  unfold isSpace
  simp only [Char.reduceToNat, Bool.and_eq_true, decide_eq_true_eq] at h
  simp only [Bool.or_eq_false_iff, Bool.and_eq_false_iff, decide_eq_false_iff_not]
  omega

theorem trim_digits {ds : List Char} (h : ∀ c ∈ ds, isDigit c = true) : trim ds = ds := by
  have hdrop : ∀ l : List Char, (∀ c ∈ l, isDigit c = true) → l.dropWhile isSpace = l := by
    intro l hl
    cases l with
    | nil => rfl
    | cons c cs => simp [digit_not_space (hl c (by simp))]
  unfold trim
  rw [hdrop ds h, hdrop ds.reverse (fun c hc => h c (List.mem_reverse.1 hc)), List.reverse_reverse]

theorem unsignedDecimal_digits {ds : List Char} (hne : ds ≠ []) (h : ∀ c ∈ ds, isDigit c = true) :
    unsignedDecimal ds = some (ofDigits 10 ds : Nat) := by
  have htake : ds.takeWhile isDigit = ds := List.takeWhile_eq_self_iff.2 h
  have hdrop : ds.dropWhile isDigit = [] := List.dropWhile_eq_nil_iff.2 h
  have hempty : ds.isEmpty = false := by simpa using hne
  unfold unsignedDecimal
  rw [htake, hdrop]
  simp [hempty, exponentPart, pow10]

/-- A string of digits is the number it spells. -/
theorem Number.ofChars_digits {ds : List Char} (hne : ds ≠ []) (h : ∀ c ∈ ds, isDigit c = true) :
    Number.ofChars ds = .round (ofDigits 10 ds : Nat) := by
  have hdecimal : decimalLiteral false ds = .round (ofDigits 10 ds : Nat) := by
    unfold decimalLiteral
    rw [if_neg, unsignedDecimal_digits hne h]
    · rfl
    · rintro rfl
      exact absurd (h 'I' (by decide)) (by decide)
  unfold Number.ofChars
  rw [trim_digits h]
  split
  · exact absurd rfl hne
  · exact absurd (h 'x' (by simp)) (by decide)
  · exact absurd (h 'X' (by simp)) (by decide)
  · exact absurd (h 'o' (by simp)) (by decide)
  · exact absurd (h 'O' (by simp)) (by decide)
  · exact absurd (h 'b' (by simp)) (by decide)
  · exact absurd (h 'B' (by simp)) (by decide)
  · exact absurd (h '+' (by simp)) (by decide)
  · exact absurd (h '-' (by simp)) (by decide)
  · exact hdecimal

theorem radixValue_digitChar {n : Nat} (h : n < 10) : radixValue (Nat.digitChar n) = n := by
  unfold radixValue
  rw [if_pos (Lib.isDigit_digitChar h), Lib.digitValue_digitChar h]

theorem Number.ofChars_digits2 {n : Nat} (h : n < 100) : Number.ofChars (digits2 n) = .ofInt n := by
  have hvalue : ofDigits 10 (digits2 n) = n := by
    unfold ofDigits digits2
    simp only [List.foldl_cons, List.foldl_nil]
    rw [radixValue_digitChar (by omega), radixValue_digitChar (by omega)]
    omega
  rw [Number.ofChars_digits (by simp [digits2]) (Lib.isDigit_digits2 h), hvalue]
  exact Number.round_ofNat (by omega)

theorem Number.ofChars_digits4 {n : Nat} (h : n < 10000) :
    Number.ofChars (digits4 n) = .ofInt n := by
  have hvalue : ofDigits 10 (digits4 n) = n := by
    unfold ofDigits digits4
    simp only [List.foldl_cons, List.foldl_nil]
    rw [radixValue_digitChar (by omega), radixValue_digitChar (by omega),
      radixValue_digitChar (by omega), radixValue_digitChar (by omega)]
    omega
  rw [Number.ofChars_digits (by simp [digits4]) (Lib.isDigit_digits4 h), hvalue]
  exact Number.round_ofNat (by omega)

end Livetich.Js
