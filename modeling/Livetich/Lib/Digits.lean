/-
Decimal digits as characters, and numbers written with a fixed count of them.
-/
import Mathlib.Algebra.Ring.Nat
import Mathlib.Data.List.Basic

namespace Livetich.Lib

def isDigit (c : Char) : Bool :=
  '0'.toNat ≤ c.toNat && c.toNat ≤ '9'.toNat

def digitValue (c : Char) : Nat :=
  c.toNat - '0'.toNat

def digits2 (n : Nat) : List Char :=
  [Nat.digitChar (n / 10), Nat.digitChar (n % 10)]

def digits4 (n : Nat) : List Char :=
  [Nat.digitChar (n / 1000), Nat.digitChar (n / 100 % 10), Nat.digitChar (n / 10 % 10),
    Nat.digitChar (n % 10)]

theorem isDigit_digitChar {n : Nat} (h : n < 10) : isDigit (Nat.digitChar n) = true := by
  have hall : ∀ k : Fin 10, isDigit (Nat.digitChar k) = true := by decide
  exact hall ⟨n, h⟩

theorem digitValue_digitChar {n : Nat} (h : n < 10) : digitValue (Nat.digitChar n) = n := by
  have hall : ∀ k : Fin 10, digitValue (Nat.digitChar k) = k := by decide
  exact hall ⟨n, h⟩

theorem isDigit_digits2 {n : Nat} (h : n < 100) : ∀ c ∈ digits2 n, isDigit c = true := by
  unfold digits2
  simp only [List.forall_mem_cons, List.not_mem_nil, false_imp_iff, implies_true, and_true]
  exact ⟨isDigit_digitChar (by omega), isDigit_digitChar (by omega)⟩

theorem isDigit_digits4 {n : Nat} (h : n < 10000) : ∀ c ∈ digits4 n, isDigit c = true := by
  unfold digits4
  simp only [List.forall_mem_cons, List.not_mem_nil, false_imp_iff, implies_true, and_true]
  exact ⟨isDigit_digitChar (by omega), isDigit_digitChar (by omega), isDigit_digitChar (by omega),
    isDigit_digitChar (by omega)⟩

theorem value_digits2 {n : Nat} (h : n < 100) :
    digitValue (Nat.digitChar (n / 10)) * 10 + digitValue (Nat.digitChar (n % 10)) = n := by
  rw [digitValue_digitChar (by omega), digitValue_digitChar (by omega)]
  omega

theorem value_digits4 {n : Nat} (h : n < 10000) :
    digitValue (Nat.digitChar (n / 1000)) * 1000 + digitValue (Nat.digitChar (n / 100 % 10)) * 100 +
      digitValue (Nat.digitChar (n / 10 % 10)) * 10 + digitValue (Nat.digitChar (n % 10)) = n := by
  rw [digitValue_digitChar (by omega), digitValue_digitChar (by omega),
    digitValue_digitChar (by omega), digitValue_digitChar (by omega)]
  omega

/-- A number of four digits is printed with its four digits. -/
theorem toString_digits4 {n : Int} (h : 1000 ≤ n) (h' : n ≤ 9999) :
    (toString n).toList = digits4 n.toNat := by
  obtain ⟨k, rfl⟩ := Int.eq_ofNat_of_zero_le (by omega : 0 ≤ n)
  have h100 : k / 10 / 10 = k / 100 := by omega
  have h1000 : k / 10 / 10 / 10 = k / 1000 := by omega
  show (Nat.repr k).toList = _
  rw [Nat.toList_repr, Int.toNat_natCast, Nat.toDigits_of_base_le (by decide) (by omega),
    Nat.toDigits_of_base_le (by decide) (by omega), Nat.toDigits_of_base_le (by decide) (by omega),
    Nat.toDigits_of_lt_base (by omega), h1000, h100]
  rfl

theorem toDigits_inj {m n : Nat} (h : Nat.toDigits 10 m = Nat.toDigits 10 n) : m = n := by
  have hvalue := congrArg (Nat.ofDigitChars 10 · 0) h
  simpa using hvalue

/-- No negative number is printed as a natural one is. -/
theorem toString_inj_of_nonneg {m n : Int} (hm : 0 ≤ m) (h : toString m = toString n) : m = n := by
  obtain ⟨j, rfl⟩ := Int.eq_ofNat_of_zero_le hm
  have hchars : Nat.toDigits 10 j = (toString n).toList := by
    rw [← h]
    exact Nat.toList_repr.symm
  cases n with
  | ofNat k =>
    have hk : (toString (Int.ofNat k)).toList = Nat.toDigits 10 k := Nat.toList_repr
    rw [toDigits_inj (hchars.trans hk)]
    rfl
  | negSucc k =>
    have hdash : (toString (Int.negSucc k)).toList = '-' :: (Nat.repr (k + 1)).toList := by
      show ("-" ++ Nat.repr (k + 1)).toList = _
      rw [String.toList_append]
      rfl
    have hdigit := Nat.isDigit_of_mem_toDigits (b := 10) (n := j) (c := '-') (by decide) (by decide)
      (by rw [hchars, hdash]; exact List.mem_cons_self)
    cases hdigit

theorem digits2_inj {m n : Nat} (hm : m < 100) (hn : n < 100) (h : digits2 m = digits2 n) : m = n := by
  unfold digits2 at h
  obtain ⟨htens, hones⟩ := List.cons.inj h
  rw [← value_digits2 hm, ← value_digits2 hn, htens, (List.cons.inj hones).1]

/-! ## The order of numerals -/

/-- How many digits a number is written with. -/
def width (n : Nat) : Nat := (Nat.toDigits 10 n).length

theorem width_le_iff {n k : Nat} (h : 0 < k) : width n ≤ k ↔ n < 10 ^ k :=
  Nat.length_toDigits_le_iff (by decide) h

theorem width_pos (n : Nat) : 0 < width n := Nat.length_toDigits_pos

theorem digitChar_lt {m n : Nat} (h : m < n) (hn : n < 10) : Nat.digitChar m < Nat.digitChar n := by
  have hall : ∀ m n : Fin 10, m < n → Nat.digitChar m < Nat.digitChar n := by decide
  exact hall ⟨m, by omega⟩ ⟨n, hn⟩ h

/-- A number of more digits than one ends in its last digit. -/
theorem toDigits_last {n : Nat} (h : 10 ≤ n) :
    Nat.toDigits 10 n = Nat.toDigits 10 (n / 10) ++ [Nat.digitChar (n % 10)] :=
  Nat.toDigits_of_base_le (by decide) h

theorem width_last {n : Nat} (h : 10 ≤ n) : width n = width (n / 10) + 1 := by
  unfold width
  rw [toDigits_last h, List.length_append, List.length_singleton]

theorem width_one_iff {n : Nat} : width n = 1 ↔ n < 10 := by
  have h := width_le_iff (n := n) (k := 1) (by decide)
  have := width_pos n
  omega

/-- Numerals of one width stand as their numbers do, whatever follows them. -/
theorem toDigits_lt : ∀ {m n : Nat} {xs ys : List Char}, width m = width n → m < n →
    Nat.toDigits 10 m ++ xs < Nat.toDigits 10 n ++ ys := by
  intro m
  induction m using Nat.strongRecOn with
  | ind m ih =>
    intro n xs ys hwidth hlt
    by_cases hm : m < 10
    · have hn : n < 10 := width_one_iff.1 (hwidth ▸ width_one_iff.2 hm)
      rw [Nat.toDigits_of_lt_base hm, Nat.toDigits_of_lt_base hn]
      exact List.cons_lt_cons_iff.2 (.inl (digitChar_lt hlt hn))
    · have hn : ¬ n < 10 := fun hn => hm (width_one_iff.1 (hwidth.trans (width_one_iff.2 hn)))
      rw [toDigits_last (n := m) (by omega), toDigits_last (n := n) (by omega), List.append_assoc, List.append_assoc]
      rw [width_last (n := m) (by omega), width_last (n := n) (by omega)] at hwidth
      rcases (by omega : m / 10 < n / 10 ∨ m / 10 = n / 10 ∧ m % 10 < n % 10) with h | ⟨h, hdigit⟩
      · exact ih (m / 10) (by omega) (by omega) h
      · -- The numerals part at the last digit.
        rw [h]
        exact List.append_left_lt (List.cons_lt_cons_iff.2 (.inl (digitChar_lt hdigit (by omega))))

theorem toDigits_pow (k : Nat) : ∃ rest, Nat.toDigits 10 (10 ^ k) = '1' :: rest := by
  induction k with
  | zero => exact ⟨[], rfl⟩
  | succ k ih =>
    obtain ⟨rest, hrest⟩ := ih
    have hpos : 0 < 10 ^ k := Nat.pow_pos (by decide)
    have hlast := toDigits_last (n := 10 ^ (k + 1)) (by rw [Nat.pow_succ]; omega)
    have hdiv : 10 ^ (k + 1) / 10 = 10 ^ k := by rw [Nat.pow_succ]; omega
    rw [hdiv, hrest] at hlast
    exact ⟨_, hlast⟩

theorem toDigits_pred_pow (k : Nat) : ∃ rest, Nat.toDigits 10 (10 ^ (k + 1) - 1) = '9' :: rest := by
  induction k with
  | zero => exact ⟨[], rfl⟩
  | succ k ih =>
    obtain ⟨rest, hrest⟩ := ih
    have hpos : 0 < 10 ^ k := Nat.pow_pos (by decide)
    have hten : 10 ≤ 10 ^ (k + 1) := by rw [Nat.pow_succ]; omega
    have hlast := toDigits_last (n := 10 ^ (k + 1 + 1) - 1) (by rw [Nat.pow_succ]; omega)
    have hdiv : (10 ^ (k + 1 + 1) - 1) / 10 = 10 ^ (k + 1) - 1 := by rw [Nat.pow_succ _ (k + 1)]; omega
    rw [hdiv, hrest] at hlast
    exact ⟨_, hlast⟩

/-- With the next power of ten the order turns. -/
theorem toDigits_pow_lt (k : Nat) (xs ys : List Char) :
    Nat.toDigits 10 (10 ^ (k + 1)) ++ xs < Nat.toDigits 10 (10 ^ (k + 1) - 1) ++ ys := by
  obtain ⟨one, hone⟩ := toDigits_pow (k + 1)
  obtain ⟨nine, hnine⟩ := toDigits_pred_pow k
  rw [hone, hnine]
  exact List.cons_lt_cons_iff.2 (.inl (by decide))

theorem digits2_lt {m n : Nat} (h : m < n) (hn : n < 100) (xs ys : List Char) : digits2 m ++ xs < digits2 n ++ ys := by
  unfold digits2
  rcases (by omega : m / 10 < n / 10 ∨ m / 10 = n / 10 ∧ m % 10 < n % 10) with htens | ⟨htens, hones⟩
  · exact List.cons_lt_cons_iff.2 (.inl (digitChar_lt htens (by omega)))
  · rw [htens]
    refine List.cons_lt_cons_iff.2 (.inr ⟨rfl, ?_⟩)
    exact List.cons_lt_cons_iff.2 (.inl (digitChar_lt hones (by omega)))

end Livetich.Lib
