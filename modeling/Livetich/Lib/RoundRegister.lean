/-
A register opened in numbered rounds and closed by check-then-act tasks: a task reads the register
open in some round, later writes it closed without looking again, and a winning task may after that
pay its round once. `Step` is the discipline under which this is safe: a winning write is made
only while no other task still holds a passed check. Under it every round is won and paid at most
once, and a won register is left alone until the next opening.
-/
import Livetich.Lib.TransSys
import Mathlib.Data.List.Nodup
import Mathlib.Order.Basic

namespace RoundRegister

open TransSys

/-! ## States and steps -/

/-- What the register holds. -/
inductive Mark
  | idle
  | opened (r : Nat)
  | won (r : Nat)
  | lapsed (r : Nat)
  deriving DecidableEq

/-- What a task holds: a passed check of round `r`, or a payment it owes to round `r`. -/
inductive Claim
  | armed (r : Nat)
  | due (r : Nat)
  deriving DecidableEq

structure State where
  mark : Mark
  /-- The number of openings so far; round `r` is the `r`-th. -/
  rounds : Nat
  paid : List Nat
  claims : Slots Claim

/-- No task but `i` holds a passed check. -/
def Alone (s : State) (i : Nat) : Prop := ∀ j ≠ i, ∀ r, s.claims j ≠ some (.armed r)

inductive Step : State → State → Prop
  | skip {s : State} : Step s s
  | drop {s : State} (i : Nat) : Step s { s with claims := s.claims.put i none }
  | arm {s : State} (i r : Nat) : s.mark = .opened r → s.claims i = none →
      Step s { s with claims := s.claims.put i (some (.armed r)) }
  | opens {s : State} : Step s { s with mark := .opened (s.rounds + 1), rounds := s.rounds + 1 }
  | win {s : State} (i r : Nat) (owes : Bool) : s.claims i = some (.armed r) → Alone s i →
      Step s { s with
        mark := .won r, claims := s.claims.put i (if owes then some (.due r) else none) }
  | lapse {s : State} (i r : Nat) : s.claims i = some (.armed r) →
      Step s { s with mark := .lapsed r, claims := s.claims.put i none }
  | pay {s : State} (i r : Nat) : s.claims i = some (.due r) →
      Step s { s with paid := s.paid ++ [r], claims := s.claims.put i none }

/-! ## The invariant -/

/-- A round is settled once it has been won with something to pay. -/
def Settled (s : State) (r : Nat) : Prop := r ∈ s.paid ∨ ∃ i, s.claims i = some (.due r)

structure Inv (s : State) : Prop where
  paidNodup : s.paid.Nodup
  settledLe : ∀ r, Settled s r → r ≤ s.rounds
  dueUnpaid : ∀ i r, s.claims i = some (.due r) → r ∉ s.paid
  dueInj : ∀ i j r, s.claims i = some (.due r) → s.claims j = some (.due r) → i = j
  armedLe : ∀ i r, s.claims i = some (.armed r) → r ≤ s.rounds
  armedFree : ∀ i r, s.claims i = some (.armed r) → ¬ Settled s r
  openFree : ∀ r, s.mark = .opened r → r ≤ s.rounds ∧ ¬ Settled s r
  wonQuiet : ∀ r, s.mark = .won r → ∀ i q, s.claims i ≠ some (.armed q)

theorem settled_put {s : State} {i : Nat} {c : Option Claim} {r : Nat} {m : Mark} {n : Nat}
    (hc : ∀ q, c ≠ some (.due q))
    (h : Settled { s with mark := m, rounds := n, claims := s.claims.put i c } r) : Settled s r := by
  rcases h with h | ⟨j, hj⟩
  · exact .inl h
  · rcases Slots.put_eq_some hj with ⟨-, h⟩ | ⟨-, h⟩
    · exact absurd h (hc r)
    · exact .inr ⟨j, h⟩

/-- Ending a task, or turning it into one that holds no claim, keeps the invariant. -/
theorem Inv.drop {s : State} (h : Inv s) (i : Nat) :
    Inv { s with claims := s.claims.put i none } := by
  have old : ∀ {j c}, s.claims.put i none j = some c → s.claims j = some c := fun hj => by
    rcases Slots.put_eq_some hj with ⟨-, h⟩ | ⟨-, h⟩
    · cases h
    · exact h
  have free : ∀ {r}, Settled { s with claims := s.claims.put i none } r → Settled s r :=
    fun hr => settled_put (by simp) hr
  exact ⟨h.paidNodup, fun r hr => h.settledLe r (free hr), fun j r hj => h.dueUnpaid j r (old hj),
    fun j k r hj hk => h.dueInj j k r (old hj) (old hk), fun j r hj => h.armedLe j r (old hj),
    fun j r hj hr => h.armedFree j r (old hj) (free hr),
    fun r hr => ⟨(h.openFree r hr).1, fun hs => (h.openFree r hr).2 (free hs)⟩,
    fun r hr j q hj => h.wonQuiet r hr j q (old hj)⟩

theorem Inv.arm {s : State} (h : Inv s) {i r : Nat} (hm : s.mark = .opened r) :
    Inv { s with claims := s.claims.put i (some (.armed r)) } := by
  have free : ∀ {q}, Settled { s with claims := s.claims.put i (some (.armed r)) } q → Settled s q :=
    fun hq => settled_put (by simp) hq
  have due : ∀ {j q}, s.claims.put i (some (.armed r)) j = some (.due q) →
      s.claims j = some (.due q) := fun hj => by
    rcases Slots.put_eq_some hj with ⟨-, h⟩ | ⟨-, h⟩
    · cases h
    · exact h
  have armed : ∀ {j q}, s.claims.put i (some (.armed r)) j = some (.armed q) →
      q = r ∨ s.claims j = some (.armed q) := fun hj => by
    rcases Slots.put_eq_some hj with ⟨-, h⟩ | ⟨-, h⟩
    · cases h; exact .inl rfl
    · exact .inr h
  obtain ⟨hle, hfree⟩ := h.openFree r hm
  refine ⟨h.paidNodup, fun q hq => h.settledLe q (free hq), fun j q hj => h.dueUnpaid j q (due hj),
    fun j k q hj hk => h.dueInj j k q (due hj) (due hk), ?_, ?_,
    fun q hq => ⟨(h.openFree q hq).1, fun hs => (h.openFree q hq).2 (free hs)⟩, ?_⟩
  · intro j q hj
    rcases armed hj with rfl | hj
    · exact hle
    · exact h.armedLe j q hj
  · intro j q hj hs
    rcases armed hj with rfl | hj
    · exact hfree (free hs)
    · exact h.armedFree j q hj (free hs)
  · intro q hq
    rw [show s.mark = _ from hm] at hq; cases hq

theorem Inv.opens {s : State} (h : Inv s) :
    Inv { s with mark := .opened (s.rounds + 1), rounds := s.rounds + 1 } := by
  refine ⟨h.paidNodup, fun r hr => Nat.le_succ_of_le (h.settledLe r hr), h.dueUnpaid, h.dueInj,
    fun i r hi => Nat.le_succ_of_le (h.armedLe i r hi), h.armedFree, ?_, ?_⟩
  · rintro r hr
    cases hr
    exact ⟨Nat.le_refl _, fun hs => Nat.not_succ_le_self _ (h.settledLe _ hs)⟩
  · rintro r hr; cases hr

/-- The winning write: the writer was the only task with a passed check, so none is left. -/
theorem Inv.win {s : State} (h : Inv s) {i r : Nat} (owes : Bool)
    (hi : s.claims i = some (.armed r)) (alone : Alone s i) :
    Inv { s with
      mark := .won r, claims := s.claims.put i (if owes then some (.due r) else none) } := by
  have quiet : ∀ j q, s.claims.put i (if owes then some (.due r) else none) j ≠ some (.armed q) := by
    intro j q hj
    rcases Slots.put_eq_some hj with ⟨-, h⟩ | ⟨hne, h⟩
    · cases owes <;> simp at h
    · exact alone j hne q h
  have due : ∀ {j q}, s.claims.put i (if owes then some (.due r) else none) j = some (.due q) →
      (j = i ∧ q = r) ∨ (j ≠ i ∧ s.claims j = some (.due q)) := fun hj => by
    rcases Slots.put_eq_some hj with ⟨hji, h⟩ | h
    · cases owes
      · cases h
      · cases h; exact .inl ⟨hji, rfl⟩
    · exact .inr h
  have nofree := h.armedFree i r hi
  refine ⟨h.paidNodup, ?_, ?_, ?_, fun j q hj => absurd hj (quiet j q),
    fun j q hj => absurd hj (quiet j q), ?_, fun _ _ => quiet⟩
  · rintro q (hq | ⟨j, hj⟩)
    · exact h.settledLe q (.inl hq)
    · rcases due hj with ⟨-, rfl⟩ | ⟨-, hj⟩
      · exact h.armedLe i q hi
      · exact h.settledLe q (.inr ⟨j, hj⟩)
  · intro j q hj
    rcases due hj with ⟨-, rfl⟩ | ⟨-, hj⟩
    · exact fun hq => nofree (.inl hq)
    · exact h.dueUnpaid j q hj
  · intro j k q hj hk
    rcases due hj with ⟨hji, hqj⟩ | ⟨-, hj'⟩ <;> rcases due hk with ⟨hki, hqk⟩ | ⟨-, hk'⟩
    · rw [hji, hki]
    · exact absurd (.inr ⟨k, hqj ▸ hk'⟩) nofree
    · exact absurd (.inr ⟨j, hqk ▸ hj'⟩) nofree
    · exact h.dueInj j k q hj' hk'
  · rintro q hq; cases hq

theorem Inv.lapse {s : State} (h : Inv s) {i r : Nat} :
    Inv { s with mark := .lapsed r, claims := s.claims.put i none } := by
  have h := h.drop i
  exact ⟨h.paidNodup, h.settledLe, h.dueUnpaid, h.dueInj, h.armedLe, h.armedFree,
    (by rintro q hq; cases hq), (by rintro q hq; cases hq)⟩

theorem Inv.pay {s : State} (h : Inv s) {i r : Nat} (hi : s.claims i = some (.due r)) :
    Inv { s with paid := s.paid ++ [r], claims := s.claims.put i none } := by
  have old : ∀ {j c}, s.claims.put i none j = some c → j ≠ i ∧ s.claims j = some c := fun hj => by
    rcases Slots.put_eq_some hj with ⟨-, h⟩ | h
    · cases h
    · exact h
  -- paying moves `r` from owed to paid, so no round becomes settled that was not
  have same : ∀ {q}, Settled { s with paid := s.paid ++ [r], claims := s.claims.put i none } q →
      Settled s q := by
    rintro q (hq | ⟨j, hj⟩)
    · rcases List.mem_append.1 hq with hq | hq
      · exact .inl hq
      · rw [List.mem_singleton] at hq; exact .inr ⟨i, hq ▸ hi⟩
    · exact .inr ⟨j, (old hj).2⟩
  refine ⟨?_, fun q hq => h.settledLe q (same hq), ?_,
    fun j k q hj hk => h.dueInj j k q (old hj).2 (old hk).2,
    fun j q hj => h.armedLe j q (old hj).2, fun j q hj hq => h.armedFree j q (old hj).2 (same hq),
    fun q hq => ⟨(h.openFree q hq).1, fun hs => (h.openFree q hq).2 (same hs)⟩,
    fun q hq j p hj => h.wonQuiet q hq j p (old hj).2⟩
  · exact List.nodup_append.2 ⟨h.paidNodup, List.nodup_singleton r, fun a ha b hb => by
      rw [List.mem_singleton] at hb; subst hb; rintro rfl; exact h.dueUnpaid i a hi ha⟩
  · intro j q hj hq
    obtain ⟨hne, hj'⟩ := old hj
    rcases List.mem_append.1 hq with hq | hq
    · exact h.dueUnpaid j q hj' hq
    · rw [List.mem_singleton] at hq; exact hne (h.dueInj j i r (hq ▸ hj') hi)

theorem Inv.step {s t : State} (h : Inv s) (hst : Step s t) : Inv t := by
  cases hst with
  | skip => exact h
  | drop i => exact h.drop i
  | arm i r hm _ => exact h.arm hm
  | opens => exact h.opens
  | win i r owes hi alone => exact h.win owes hi alone
  | lapse i r _ => exact h.lapse
  | pay i r hi => exact h.pay hi

/-! ## What the invariant gives -/

/-- Every round is paid at most once. -/
theorem Inv.count_paid_le {s : State} (h : Inv s) (r : Nat) : s.paid.count r ≤ 1 :=
  List.nodup_iff_count_le_one.1 h.paidNodup r

end RoundRegister
