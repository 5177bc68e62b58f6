/-
How often a word stands in a text. Where two parts of a text are set apart by a character that the word
does not have, no occurrence lies across them, and the counts of the parts add up.
-/
import Mathlib.Algebra.Ring.Nat
import Mathlib.Data.List.Infix
import Mathlib.Data.List.Lemmas

namespace Livetich.Lib

variable {α : Type*} [DecidableEq α]

/-- The number of places at which the word begins. -/
def occurrences (word : List α) : List α → Nat
  | [] => 0
  | c :: text => (if word <+: c :: text then 1 else 0) + occurrences word text

variable {word : List α}

theorem occurrences_nil (word : List α) : occurrences word [] = 0 := rfl

theorem occurrences_head (word : List α) (c : α) (text : List α) :
    occurrences word (c :: text) = (if word <+: c :: text then 1 else 0) + occurrences word text :=
  rfl

theorem occurrences_eq_zero (hword : word ≠ []) : ∀ {text : List α}, occurrences word text = 0 ↔ ¬ word <:+: text
  | [] => by simp [occurrences_nil, hword]
  | c :: text => by
    have ih := @occurrences_eq_zero hword text
    rw [occurrences_head, List.infix_cons_iff, not_or, ← ih]
    split <;> rename_i hstarts <;> simp [hstarts]

omit [DecidableEq α] in
/-- A prefix without the character ends before it. -/
theorem prefix_append_cons {c : α} (hc : c ∉ word) {xs ys : List α} : word <+: xs ++ c :: ys ↔ word <+: xs := by
  refine ⟨?_, fun h => h.trans (List.prefix_append _ _)⟩
  rintro ⟨rest, heq⟩
  rcases List.append_eq_append_iff.1 heq with ⟨as, rfl, -⟩ | ⟨bs, rfl, hbs⟩
  · exact List.prefix_append _ _
  · cases bs with
    | nil => exact (List.append_nil xs).symm ▸ List.prefix_rfl
    | cons b bs =>
      cases hbs
      exact absurd (List.mem_append_right _ List.mem_cons_self) hc

theorem occurrences_cons {c : α} (hword : word ≠ []) (hc : c ∉ word) (text : List α) :
    occurrences word (c :: text) = occurrences word text := by
  rw [occurrences_head, if_neg, Nat.zero_add]
  intro hstarts
  obtain ⟨b, bs, rfl⟩ := List.exists_cons_of_ne_nil hword
  obtain ⟨rfl, -⟩ := List.cons_prefix_cons.1 hstarts
  exact hc List.mem_cons_self

/-- The character sets the two parts apart. -/
theorem occurrences_append_cons {c : α} (hword : word ≠ []) (hc : c ∉ word) {ys : List α} :
    ∀ xs, occurrences word (xs ++ c :: ys) = occurrences word xs + occurrences word ys
  | [] => by rw [List.nil_append, occurrences_cons hword hc, occurrences_nil, Nat.zero_add]
  | x :: xs => by
    have ih := @occurrences_append_cons c hword hc ys xs
    have hstarts : word <+: x :: (xs ++ c :: ys) ↔ word <+: x :: xs := by
      rw [← List.cons_append]
      exact prefix_append_cons hc
    rw [List.cons_append, occurrences_head, occurrences_head, ih, if_congr hstarts rfl rfl]
    omega

/-- A text that begins with a character that the word does not have is set apart from what comes before. -/
theorem occurrences_append (hword : word ≠ []) {xs ys : List α} (h : ∀ c ∈ ys.head?, c ∉ word) :
    occurrences word (xs ++ ys) = occurrences word xs + occurrences word ys := by
  cases ys with
  | nil => rw [List.append_nil, occurrences_nil, Nat.add_zero]
  | cons c ys =>
    have hc : c ∉ word := h c rfl
    rw [occurrences_append_cons hword hc, occurrences_cons hword hc]

/-- A text that begins and ends with characters that the word does not have, and does not hold it. -/
def isFence (word text : List α) : Bool :=
  text.head?.any (· ∉ word) && text.getLast?.any (· ∉ word) && occurrences word text == 0

theorem occurrences_fence {fence : List α} (hword : word ≠ []) (h : isFence word fence = true) (xs ys : List α) :
    occurrences word (xs ++ (fence ++ ys)) = occurrences word xs + occurrences word ys := by
  simp only [isFence, Bool.and_eq_true, Option.any_eq_true, decide_eq_true_eq, beq_iff_eq] at h
  obtain ⟨⟨⟨c, hhead, hc⟩, d, hlast, hd⟩, hzero⟩ := h
  obtain ⟨init, rfl⟩ := List.getLast?_eq_some_iff.1 hlast
  cases init with
  | nil =>
    rw [List.nil_append, List.singleton_append, occurrences_append_cons hword hd]
  | cons b init =>
    obtain rfl : b = c := by simpa using hhead
    rw [List.cons_append, occurrences_cons hword hc, occurrences_append_cons hword hd, occurrences_nil,
      Nat.add_zero] at hzero
    rw [List.cons_append, List.cons_append, List.append_assoc, List.singleton_append,
      occurrences_append_cons hword hc, occurrences_append_cons hword hd, hzero, Nat.zero_add]

/-- Parts joined by the character. -/
theorem occurrences_intercalate {c : α} (hword : word ≠ []) (hc : c ∉ word) :
    ∀ parts : List (List α), occurrences word (List.intercalate [c] parts) = (parts.map (occurrences word)).sum
  | [] => rfl
  | [part] => by simp
  | part :: next :: parts => by
    have ih := occurrences_intercalate hword hc (next :: parts)
    rw [List.intercalate_cons_cons, List.append_assoc, List.singleton_append, occurrences_append_cons hword hc, ih]
    simp

end Livetich.Lib
