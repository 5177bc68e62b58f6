/-
UTF-8 as a decoder reads it that never rejects: one replacement character for each longest piece that begins no
character. What becomes of a stream that is cut into pieces, each decoded on its own, and of its last units.
-/
import Mathlib.Data.List.DropRight
import Mathlib.Data.List.Induction
import Mathlib.Tactic.Common

namespace Livetich.Lib

/-! ## Lists that end in a run -/

namespace Runs

variable {α : Type} {x : α} {l w v r : List α}

theorem replicate_succ_suffix {n : Nat} {y : α} :
    List.replicate (n + 1) x <:+ l ++ [y] ↔ x = y ∧ List.replicate n x <:+ l := by
  rw [List.replicate_succ', List.suffix_concat_iff]
  simp

theorem replicate_suffix {m n : Nat} (h : m ≤ n) : List.replicate m x <:+ List.replicate n x :=
  ⟨List.replicate (n - m) x, by rw [List.replicate_append_replicate, Nat.sub_add_cancel h]⟩

/-- The second list ends in any run that the first one ends in. -/
def Longer (x : α) (w v : List α) : Prop := ∀ n, List.replicate n x <:+ w → List.replicate n x <:+ v

theorem Longer.append (h : Longer x w v) (r : List α) : Longer x (w ++ r) (v ++ r) := by
  induction r using List.reverseRecOn with
  | nil => simpa using h
  | append_singleton r y ih =>
    rintro (_ | n) hn
    · exact List.nil_suffix
    · rw [← List.append_assoc, replicate_succ_suffix] at hn ⊢
      exact ⟨hn.1, ih n hn.2⟩

theorem rtake_append_of_le {n : Nat} (h : r.length ≤ n) : (l ++ r).rtake n = l.rtake (n - r.length) ++ r := by
  unfold List.rtake
  rw [List.length_append, List.drop_append_of_le_length (by omega)]
  congr 2
  omega

theorem rtake_append_of_ge {n : Nat} (h : n ≤ r.length) : (l ++ r).rtake n = r.rtake n := by
  unfold List.rtake
  rw [List.length_append, show l.length + r.length - n = l.length + (r.length - n) by omega,
    List.drop_length_add_append]

theorem rtake_suffix (l : List α) (n : Nat) : l.rtake n <:+ l := List.drop_suffix ..

theorem rtake_eq_replicate_iff {n : Nat} : l.rtake n = List.replicate n x ↔ List.replicate n x <:+ l := by
  constructor
  · intro h
    rw [← h]
    exact rtake_suffix l n
  · rintro ⟨v, rfl⟩
    rw [rtake_append_of_ge (by simp)]
    unfold List.rtake
    simp

/-- Two lists that differ before their common end, the second by a longer run: their last elements are the same just
where the end is long enough, or there is nothing but the run before it. -/
theorem rtake_eq_iff (h : ∀ n, List.replicate n x <:+ w → List.replicate (n + 1) x <:+ v) (n : Nat) :
    (v ++ r).rtake n = (w ++ r).rtake n ↔
      n ≤ r.length ∨ (w ++ r).rtake n = List.replicate (n - r.length) x ++ r := by
  by_cases hle : n ≤ r.length
  · rw [rtake_append_of_ge hle, rtake_append_of_ge hle]
    exact iff_of_true rfl (.inl hle)
  rw [rtake_append_of_le (by omega), rtake_append_of_le (by omega), List.append_cancel_right_eq,
    List.append_cancel_right_eq, or_iff_right hle, rtake_eq_replicate_iff]
  generalize n - r.length = n
  constructor
  · intro heq
    -- Each run that the first list ends in is one longer in the second, and so in the first.
    have hruns : ∀ m ≤ n, List.replicate m x <:+ w := by
      intro m
      induction m with
      | zero => exact fun _ => List.nil_suffix
      | succ m ih =>
        intro hm
        have hv : List.replicate (m + 1) x <:+ v := h m (ih (by omega))
        have hlen : (List.replicate (m + 1) x).length ≤ (v.rtake n).length := by
          have := hv.length_le
          unfold List.rtake
          rw [List.length_replicate] at this ⊢
          rw [List.length_drop]
          omega
        have htake := List.suffix_of_suffix_length_le hv (rtake_suffix v n) hlen
        rw [heq] at htake
        exact htake.trans (rtake_suffix w n)
    exact hruns n (le_refl n)
  · intro hrun
    have hv : List.replicate n x <:+ v := (replicate_suffix (Nat.le_succ n)).trans (h n hrun)
    rw [rtake_eq_replicate_iff.2 hrun, rtake_eq_replicate_iff.2 hv]

end Runs

/-! ## The decoder -/

namespace Utf8

open Runs

/-- The replacement character. -/
def replacement : UInt16 := 0xFFFD

/-- A character of which bytes are missing: how many after the next one, the bounds of the next one, and the bits that
are there. -/
structure Pending where
  after : Nat
  lower : Nat
  upper : Nat
  value : Nat
  range : 0x80 ≤ lower ∧ upper < 0xC0

/-- Bytes, with text between them that is decoded already. -/
inductive Item
  | byte (b : UInt8)
  | unit (u : UInt16)
  deriving DecidableEq

/-- The UTF-16 units of a code point. -/
def units (code : Nat) : List UInt16 :=
  if code < 0x10000 then [.ofNat code]
  else [.ofNat (0xD800 + (code - 0x10000) / 0x400), .ofNat (0xDC00 + (code - 0x10000) % 0x400)]

/-- A byte at which a character may begin. -/
def start (n : Nat) : Option Pending × List UInt16 :=
  if n < 0x80 then (none, [.ofNat n])
  else if n < 0xC2 then (none, [replacement])
  else if n < 0xE0 then (some ⟨0, 0x80, 0xBF, n - 0xC0, by decide⟩, [])
  else if n < 0xF0 then
    (some ⟨1, if n = 0xE0 then 0xA0 else 0x80, if n = 0xED then 0x9F else 0xBF, n - 0xE0, by grind⟩, [])
  else if n < 0xF5 then
    (some ⟨2, if n = 0xF0 then 0x90 else 0x80, if n = 0xF4 then 0x8F else 0xBF, n - 0xF0, by grind⟩, [])
  else (none, [replacement])

/-- A byte goes on with a character. -/
def Pending.Takes (p : Pending) (n : Nat) : Prop := p.lower ≤ n ∧ n ≤ p.upper

instance (p : Pending) (n : Nat) : Decidable (p.Takes n) := inferInstanceAs (Decidable (_ ∧ _))

/-- A character with its next byte. -/
def Pending.take (p : Pending) (n : Nat) : Option Pending × List UInt16 :=
  match p.after with
  | 0 => (none, units (p.value * 64 + (n - 0x80)))
  | after + 1 => (some ⟨after, 0x80, 0xBF, p.value * 64 + (n - 0x80), by decide⟩, [])

/-- What is left of a character that does not go on. -/
def flush : Option Pending → List UInt16
  | none => []
  | some _ => [replacement]

def stepByte : Option Pending → Nat → Option Pending × List UInt16
  | none, n => start n
  | some p, n => if p.Takes n then p.take n else ((start n).1, replacement :: (start n).2)

def step (s : Option Pending) : Item → Option Pending × List UInt16
  | .unit u => (none, flush s ++ [u])
  | .byte b => stepByte s b.toNat

/-- What is decoded from a state on, and the state that is left. -/
def run (s : Option Pending) : List Item → Option Pending × List UInt16
  | [] => (s, [])
  | i :: is => ((run (step s i).1 is).1, (step s i).2 ++ (run (step s i).1 is).2)

def decodeFrom (s : Option Pending) (is : List Item) : List UInt16 := (run s is).2 ++ flush (run s is).1

def decode (is : List Item) : List UInt16 := decodeFrom none is

/-- The stream goes on with the character that is pending. -/
def Continues : Option Pending → List Item → Prop
  | some p, .byte b :: _ => p.Takes b.toNat
  | _, _ => False

instance : ∀ (s : Option Pending) (is : List Item), Decidable (Continues s is)
  | some p, .byte b :: _ => inferInstanceAs (Decidable (p.Takes b.toNat))
  | some _, .unit _ :: _ | some _, [] | none, _ => isFalse id

/-- The stream after the character that is pending. -/
def skip : Option Pending → List Item → List Item
  | none, is => is
  | some _, [] => []
  | some _, .unit u :: is => .unit u :: is
  | some p, .byte b :: is => if p.Takes b.toNat then skip (p.take b.toNat).1 is else .byte b :: is

theorem skip_none (is : List Item) : skip none is = is := by unfold skip; rfl

theorem skip_takes {p : Pending} {b : UInt8} (h : p.Takes b.toNat) (is : List Item) :
    skip (some p) (.byte b :: is) = skip (p.take b.toNat).1 is := if_pos h

theorem skip_of_not_continues {p : Pending} {is : List Item} (h : ¬Continues (some p) is) : skip (some p) is = is := by
  match is with
  | [] => rfl
  | .unit u :: is => rfl
  | .byte b :: is => exact if_neg h

/-! ## Decoding in pieces -/

theorem run_append (s : Option Pending) (is js : List Item) :
    run s (is ++ js) = ((run (run s is).1 js).1, (run s is).2 ++ (run (run s is).1 js).2) := by
  induction is generalizing s with
  | nil => rfl
  | cons i is ih =>
    show ((run (step s i).1 (is ++ js)).1, (step s i).2 ++ (run (step s i).1 (is ++ js)).2) = _
    rw [ih]
    simp [run]

theorem decodeFrom_append (s : Option Pending) (is js : List Item) :
    decodeFrom s (is ++ js) = (run s is).2 ++ decodeFrom (run s is).1 js := by
  unfold decodeFrom
  rw [run_append, List.append_assoc]

theorem decodeFrom_cons (s : Option Pending) (i : Item) (is : List Item) :
    decodeFrom s (i :: is) = (step s i).2 ++ decodeFrom (step s i).1 is :=
  List.append_assoc ..

/-- A byte that goes on with a character begins none. -/
theorem start_of_takes {p : Pending} {n : Nat} (h : p.Takes n) : start n = (none, [replacement]) := by
  obtain ⟨hlower, hupper⟩ := h
  have hrange := p.range
  unfold start
  rw [if_neg (by omega)]
  split
  · rfl
  · omega

/-- The last unit of a character is the replacement character only where it is that character. -/
theorem units_end (code : Nat) : ∃ l u, units code = l ++ [u] ∧ (u = replacement → l = []) := by
  unfold units
  split
  · exact ⟨[], _, rfl, fun _ => rfl⟩
  · refine ⟨[_], _, rfl, fun h => ?_⟩
    have hnat := congrArg UInt16.toNat h
    rw [UInt16.toNat_ofNat', show replacement.toNat = 0xFFFD from rfl] at hnat
    omega

/-- Where the stream does not go on with it, what is pending is replaced, and the rest begins anew. -/
theorem decodeFrom_of_not_continues {s : Option Pending} {is : List Item} (h : ¬Continues s is) :
    decodeFrom s is = flush s ++ decode is := by
  cases s with
  | none => rfl
  | some p =>
    cases is with
    | nil => rfl
    | cons i is =>
      unfold decode
      rw [decodeFrom_cons, decodeFrom_cons]
      cases i with
      | unit u => rfl
      | byte b =>
        have hstep : step (some p) (.byte b) = ((start b.toNat).1, replacement :: (start b.toNat).2) := if_neg h
        rw [hstep]
        rfl

theorem decode_append {is js : List Item} (h : ¬Continues (run none is).1 js) :
    decode (is ++ js) = decode is ++ decode js := by
  unfold decode
  rw [decodeFrom_append, decodeFrom_of_not_continues h]
  exact (List.append_assoc ..).symm

/-- The bytes that go on with a character come to that character, or to the replacement character; decoded apart from
it, to replacement characters. -/
theorem decodeFrom_skip : ∀ (is : List Item) (p : Pending), ∃ l u m,
    decodeFrom (some p) is = l ++ u :: decode (skip (some p) is) ∧ (u = replacement → l = []) ∧
      decode is = List.replicate m replacement ++ decode (skip (some p) is) ∧ (Continues (some p) is → 1 ≤ m)
  | [], p => ⟨[], replacement, 0, rfl, fun _ => rfl, rfl, False.elim⟩
  | .unit v :: is, p => ⟨[], replacement, 0, rfl, fun _ => rfl, rfl, False.elim⟩
  | .byte b :: is, p => by
    by_cases htakes : p.Takes b.toNat
    · have hstep : step (some p) (.byte b) = p.take b.toNat := if_pos htakes
      have hapart : decode (.byte b :: is) = replacement :: decode is := by
        unfold decode
        rw [decodeFrom_cons, show step none (.byte b) = start b.toNat from rfl, start_of_takes htakes]
        rfl
      rw [skip_takes htakes, decodeFrom_cons, hstep, hapart]
      unfold Pending.take
      cases p.after with
      | zero =>
        obtain ⟨l, u, hunits, hu⟩ := units_end (p.value * 64 + (b.toNat - 0x80))
        dsimp only
        rw [skip_none, hunits]
        exact ⟨l, u, 1, List.append_assoc .., hu, rfl, fun _ => le_refl 1⟩
      | succ after =>
        obtain ⟨l, u, m, hfrom, hu, hdecode, -⟩ := decodeFrom_skip is ⟨after, 0x80, 0xBF, _, by decide⟩
        refine ⟨l, u, m + 1, hfrom, hu, ?_, fun _ => by omega⟩
        rw [hdecode]
        rfl
    · have hnot : ¬Continues (some p) (.byte b :: is) := htakes
      rw [skip_of_not_continues hnot, decodeFrom_of_not_continues hnot]
      exact ⟨[], replacement, 0, rfl, fun _ => rfl, rfl, fun h => absurd h hnot⟩

/-! ## Text in a stream -/

theorem decodeFrom_units {us : List UInt16} (h : us ≠ []) (s : Option Pending) (is : List Item) :
    decodeFrom s (us.map .unit ++ is) = flush s ++ (us ++ decode is) := by
  have hnone : ∀ us : List UInt16, decodeFrom none (us.map .unit ++ is) = us ++ decode is := by
    intro us
    induction us with
    | nil => rfl
    | cons u us ih =>
      show decodeFrom none (.unit u :: (us.map .unit ++ is)) = _
      rw [decodeFrom_cons, show step none (.unit u) = (none, [u]) from rfl, ih]
      rfl
  obtain ⟨u, us, rfl⟩ := List.exists_cons_of_ne_nil h
  show decodeFrom s (.unit u :: (us.map .unit ++ is)) = _
  rw [decodeFrom_cons, show step s (.unit u) = (none, flush s ++ [u]) from rfl, hnone, List.append_assoc]
  rfl

/-! ## Streams that are cut -/

/-- What is decoded of the pieces of a stream, each on its own. -/
def apart (pieces : List (List Item)) : List UInt16 := pieces.flatMap decode

/-- The state before a piece, and what was decoded after the last character that a cut goes through. -/
def seam (before : Option Pending × Option (List UInt16)) (piece : List Item) :
    Option Pending × Option (List UInt16) :=
  ((run before.1 piece).1,
    if Continues before.1 piece then some (decode (skip before.1 piece)) else before.2.map (· ++ decode piece))

/-- What is decoded after the last character that a cut goes through, if there is one. -/
def afterCut (pieces : List (List Item)) : Option (List UInt16) := (pieces.foldl seam (none, none)).2

theorem seam_state (pieces : List (List Item)) : (pieces.foldl seam (none, none)).1 = (run none pieces.flatten).1 := by
  induction pieces using List.reverseRecOn with
  | nil => rfl
  | append_singleton pieces piece ih =>
    rw [List.foldl_append, List.flatten_append, List.flatten_singleton, run_append, ← ih]
    rfl

/-- How a stream and its pieces differ: not at all, or before what follows the last cut character, where the pieces
end in the longer run of replacement characters. -/
structure Cut (pieces : List (List Item)) : Prop where
  longer : Longer replacement (decode pieces.flatten) (apart pieces)
  whole : afterCut pieces = none → apart pieces = decode pieces.flatten
  cut : ∀ rest, afterCut pieces = some rest → ∃ w v, decode pieces.flatten = w ++ rest ∧ apart pieces = v ++ rest ∧
    ∀ n, List.replicate n replacement <:+ w → List.replicate (n + 1) replacement <:+ v

/-- A cut goes through a character. -/
theorem cut_through {is js : List Item} {before : List UInt16} (hlonger : Longer replacement (decode is) before)
    (hcont : Continues (run none is).1 js) :
    ∃ w v, decode (is ++ js) = w ++ decode (skip (run none is).1 js) ∧
      before ++ decode js = v ++ decode (skip (run none is).1 js) ∧
      ∀ n, List.replicate n replacement <:+ w → List.replicate (n + 1) replacement <:+ v := by
  cases hstate : (run none is).1 with
  | none =>
    rw [hstate] at hcont
    cases js <;> exact hcont.elim
  | some p =>
    rw [hstate] at hcont
    obtain ⟨l, u, m, hfrom, hu, hdecode, hm⟩ := decodeFrom_skip js p
    have hpending : decode is = (run none is).2 ++ [replacement] := by
      unfold decode decodeFrom
      rw [hstate]
      rfl
    refine ⟨(run none is).2 ++ (l ++ [u]), before ++ List.replicate m replacement, ?_, ?_, ?_⟩
    · unfold decode
      rw [decodeFrom_append, hstate, hfrom]
      simp [decode]
    · rw [hdecode, List.append_assoc]
    · obtain ⟨m, rfl⟩ : ∃ k, m = k + 1 := ⟨m - 1, by have := hm hcont; omega⟩
      rintro (_ | n) hn
      · exact (replicate_suffix (by omega)).trans (List.suffix_append ..)
      · rw [← List.append_assoc, replicate_succ_suffix] at hn
        obtain ⟨rfl, hn⟩ := hn
        -- The character is U+FFFD itself, so that many units are replacement characters before the cut.
        rw [hu rfl, List.append_nil] at hn
        have hrun : List.replicate (n + 1) replacement <:+ before := by
          refine hlonger (n + 1) ?_
          rw [hpending, replicate_succ_suffix]
          exact ⟨rfl, hn⟩
        obtain ⟨l', rfl⟩ := hrun
        rw [List.append_assoc, List.replicate_append_replicate]
        exact (replicate_suffix (by omega)).trans (List.suffix_append ..)

theorem cut (pieces : List (List Item)) : Cut pieces := by
  induction pieces using List.reverseRecOn with
  | nil => exact ⟨fun _ h => h, fun _ => rfl, fun rest h => by cases h⟩
  | append_singleton pieces piece ih =>
    have hafter : afterCut (pieces ++ [piece]) =
        if Continues (run none pieces.flatten).1 piece then some (decode (skip (run none pieces.flatten).1 piece))
        else (afterCut pieces).map (· ++ decode piece) := by
      unfold afterCut
      rw [List.foldl_append, ← seam_state]
      rfl
    have hapart : apart (pieces ++ [piece]) = apart pieces ++ decode piece := by
      simp [apart]
    have hflatten : (pieces ++ [piece]).flatten = pieces.flatten ++ piece := by simp
    by_cases hcont : Continues (run none pieces.flatten).1 piece
    · rw [if_pos hcont] at hafter
      obtain ⟨w, v, hwhole, hpieces, hruns⟩ := cut_through ih.longer hcont
      rw [← hflatten] at hwhole
      rw [← hapart] at hpieces
      refine ⟨?_, fun hnone => ?_, fun rest hrest => ?_⟩
      · rw [hwhole, hpieces]
        exact Longer.append (fun n hn => (replicate_suffix (Nat.le_succ n)).trans (hruns n hn)) _
      · rw [hafter] at hnone
        cases hnone
      · rw [hafter] at hrest
        cases hrest
        exact ⟨w, v, hwhole, hpieces, hruns⟩
    · rw [if_neg hcont] at hafter
      have hwhole : decode (pieces ++ [piece]).flatten = decode pieces.flatten ++ decode piece := by
        rw [hflatten, decode_append hcont]
      refine ⟨?_, fun hnone => ?_, fun rest hrest => ?_⟩
      · rw [hapart, hwhole]
        exact ih.longer.append _
      · rw [hafter] at hnone
        rw [hapart, hwhole, ih.whole (Option.map_eq_none_iff.1 hnone)]
      · rw [hafter] at hrest
        obtain ⟨rest', hrest', rfl⟩ := Option.map_eq_some_iff.1 hrest
        obtain ⟨w, v, hw, hv, hruns⟩ := ih.cut rest' hrest'
        rw [hapart, hwhole, hw, hv, List.append_assoc, List.append_assoc]
        exact ⟨w, v, rfl, rfl, hruns⟩

end Utf8

end Livetich.Lib
