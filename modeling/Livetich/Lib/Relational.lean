/-
Relational databases. A row refers to rows of other tables through reference columns; when a row
goes, the rows that refer to it refuse that, go too, or have the column set to null.
-/
import Mathlib.Data.Finset.Card
import Mathlib.Order.Monotone.Basic
import Livetich.Lib.Table

namespace Relational

open Livetich.Lib

/-! ## Schemas and rows -/

/-- What happens to a row when the row it refers to is deleted. -/
inductive OnDelete
  | restrict
  | cascade
  | setNull
  deriving DecidableEq

/-- The reference columns: the table each is a column of, the table it refers to. -/
structure Schema (T C : Type*) where
  table : C → T
  target : C → T
  onDelete : C → OnDelete
  columns : List C
  mem_columns : ∀ col, col ∈ columns

structure Row (C I δ : Type*) where
  refs : C → Option I
  data : δ

variable {T C I δ : Type*} [DecidableEq T] [DecidableEq I]

abbrev Db (T C I δ : Type*) := Table (T × I) (Row C I δ)

namespace Row

variable {S : Schema T C} {act : OnDelete} {row : Row C I δ} {D : Finset (T × I)} {col : C} {i : I}

/-- The row refers to one of the keys through a column with this action. -/
def refersInto (S : Schema T C) (act : OnDelete) (row : Row C I δ) (D : Finset (T × I)) : Bool :=
  S.columns.any fun col => decide (S.onDelete col = act) && (row.refs col).any fun i => decide ((S.target col, i) ∈ D)

theorem refersInto_iff :
    row.refersInto S act D = true ↔ ∃ col i, S.onDelete col = act ∧ row.refs col = some i ∧ (S.target col, i) ∈ D := by
  unfold refersInto
  rw [List.any_eq_true]
  constructor
  · rintro ⟨col, -, hcol⟩
    obtain ⟨hact, hany⟩ := Bool.and_eq_true_iff.1 hcol
    cases hi : row.refs col with
    | none =>
      rw [hi] at hany
      cases hany
    | some i =>
      rw [hi] at hany
      exact ⟨col, i, of_decide_eq_true hact, hi, of_decide_eq_true hany⟩
  · rintro ⟨col, i, hact, hi, hD⟩
    refine ⟨col, S.mem_columns col, ?_⟩
    rw [hi, Option.any_some, decide_eq_true hact, decide_eq_true hD]
    rfl

/-- The row after the keys are gone: the columns set to null that are to be. -/
def cut (S : Schema T C) (D : Finset (T × I)) (row : Row C I δ) : Row C I δ :=
  { row with
    refs := fun col => (row.refs col).filter fun i =>
      !(decide (S.onDelete col = .setNull) && decide ((S.target col, i) ∈ D)) }

theorem cut_refs :
    (row.cut S D).refs col = some i ↔
      row.refs col = some i ∧ (S.onDelete col = .setNull → (S.target col, i) ∉ D) := by
  unfold cut
  rw [Option.filter_eq_some_iff]
  refine and_congr_right fun _ => ?_
  rw [Bool.not_eq_true', Bool.and_eq_false_iff, decide_eq_false_iff_not, decide_eq_false_iff_not, ← imp_iff_not_or]

theorem cut_of_not_refersInto (h : row.refersInto S .setNull D = false) : row.cut S D = row := by
  have hrefs : (row.cut S D).refs = row.refs := by
    funext col
    apply Option.ext
    intro i
    rw [cut_refs]
    refine ⟨fun hi => hi.1, fun hi => ⟨hi, fun hnull hD => ?_⟩⟩
    exact Bool.false_ne_true (h.symm.trans (refersInto_iff.2 ⟨col, i, hnull, hi, hD⟩))
  cases row
  unfold cut at hrefs ⊢
  simp only at hrefs
  simp only [hrefs]

end Row

/-! ## Deleting rows -/

section Deleting

variable (S : Schema T C) (db : Db T C I δ)

/-- Take the keys away, with what that does to the columns that are set to null. -/
def purge (D : Finset (T × I)) : Db T C I δ := (db.filter fun k _ => decide (k ∉ D)).map (Row.cut S D)

/-- Add the rows that go with the keys. -/
def spread (D : Finset (T × I)) : Finset (T × I) :=
  D ∪ ((db.entries.filter fun e => e.2.refersInto S .cascade D).map (·.1)).toFinset

/-- The selected rows and all that goes with them, which as many rounds as there are rows find. -/
def doomed (sel : T × I → Bool) : Finset (T × I) :=
  (spread S db)^[db.entries.length] ((db.entries.filter fun e => sel e.1).map (·.1)).toFinset

/-- Delete the selected rows; `none` when a row that refers to a deleted one refuses it. -/
def delete (sel : T × I → Bool) : Option (Db T C I δ) :=
  if db.entries.any fun e => e.2.refersInto S .restrict (doomed S db sel) then none
  else some (purge S db (doomed S db sel))

end Deleting

variable {S : Schema T C} {db : Db T C I δ} {D : Finset (T × I)} {sel : T × I → Bool} {k : T × I}
  {row row' : Row C I δ}

theorem get_purge : (purge S db D).get k = some row' ↔ k ∉ D ∧ ∃ row, db.get k = some row ∧ row.cut S D = row' := by
  unfold purge
  rw [Table.get_map, Option.map_eq_some_iff]
  constructor
  · rintro ⟨row, hrow, rfl⟩
    obtain ⟨hget, hk⟩ := Table.get_filter.1 hrow
    exact ⟨of_decide_eq_true hk, row, hget, rfl⟩
  · rintro ⟨hk, row, hget, rfl⟩
    exact ⟨row, Table.get_filter.2 ⟨hget, decide_eq_true hk⟩, rfl⟩

theorem mem_spread :
    k ∈ spread S db D ↔ k ∈ D ∨ ∃ row, db.get k = some row ∧ row.refersInto S .cascade D = true := by
  unfold spread
  rw [Finset.mem_union, List.mem_toFinset, List.mem_map]
  refine or_congr_right ?_
  constructor
  · rintro ⟨e, he, rfl⟩
    obtain ⟨hmem, href⟩ := List.mem_filter.1 he
    exact ⟨e.2, Table.get_of_mem hmem, href⟩
  · rintro ⟨row, hrow, href⟩
    exact ⟨(k, row), List.mem_filter.2 ⟨Table.mem_of_get hrow, href⟩, rfl⟩

theorem subset_spread : D ⊆ spread S db D := fun _ hk => mem_spread.2 (.inl hk)

theorem mem_selected :
    k ∈ ((db.entries.filter fun e => sel e.1).map (·.1)).toFinset ↔ sel k = true ∧ ∃ row, db.get k = some row := by
  rw [List.mem_toFinset, List.mem_map]
  constructor
  · rintro ⟨e, he, rfl⟩
    obtain ⟨hmem, hsel⟩ := List.mem_filter.1 he
    exact ⟨hsel, e.2, Table.get_of_mem hmem⟩
  · rintro ⟨hsel, row, hrow⟩
    exact ⟨(k, row), List.mem_filter.2 ⟨Table.mem_of_get hrow, hsel⟩, rfl⟩

theorem iterate_spread_induct {P : T × I → Prop} (hstart : ∀ k ∈ D, P k)
    (hstep : ∀ k row col i, db.get k = some row → S.onDelete col = .cascade → row.refs col = some i →
      P (S.target col, i) → P k) : ∀ n, ∀ k ∈ (spread S db)^[n] D, P k
  | 0, k, hk => hstart k hk
  | n + 1, k, hk => by
    rw [Function.iterate_succ_apply'] at hk
    rcases mem_spread.1 hk with hk | ⟨row, hrow, href⟩
    · exact iterate_spread_induct hstart hstep n k hk
    · obtain ⟨col, i, hcascade, hi, hD⟩ := Row.refersInto_iff.1 href
      exact hstep k row col i hrow hcascade hi (iterate_spread_induct hstart hstep n _ hD)

/-- What holds of the selected rows and of each row that goes with one it holds of, holds of all that go. -/
theorem doomed_induct {P : T × I → Prop} (hsel : ∀ k row, db.get k = some row → sel k = true → P k)
    (hstep : ∀ k row col i, db.get k = some row → S.onDelete col = .cascade → row.refs col = some i →
      P (S.target col, i) → P k) : ∀ k ∈ doomed S db sel, P k := by
  refine iterate_spread_induct (fun k hk => ?_) hstep _
  obtain ⟨hk, row, hrow⟩ := mem_selected.1 hk
  exact hsel k row hrow hk

theorem subset_iterate_spread : ∀ n, D ⊆ (spread S db)^[n] D
  | 0 => Finset.Subset.refl D
  | n + 1 => by
    rw [Function.iterate_succ_apply']
    exact (subset_iterate_spread n).trans subset_spread

theorem mem_doomed_of_sel (hrow : db.get k = some row) (hsel : sel k = true) : k ∈ doomed S db sel :=
  subset_iterate_spread _ (mem_selected.2 ⟨hsel, row, hrow⟩)

/-- As many rounds as there are rows leave no row that would go with the others. -/
theorem spread_doomed : spread S db (doomed S db sel) = doomed S db sel := by
  set start := ((db.entries.filter fun e => sel e.1).map (·.1)).toFinset with hstart
  have hsucc : ∀ n, (spread S db)^[n + 1] start = spread S db ((spread S db)^[n] start) :=
    fun n => Function.iterate_succ_apply' _ _ _
  -- the rounds only add keys, and there are no more keys than rows
  have hmono : Monotone fun n => ((spread S db)^[n] start).card := by
    refine monotone_nat_of_le_succ fun n => Finset.card_le_card ?_
    rw [hsucc]
    exact subset_spread
  have hbound : ∀ n, ((spread S db)^[n] start).card ≤ db.entries.length := by
    intro n
    have hsub : (spread S db)^[n] start ⊆ (db.entries.map (·.1)).toFinset := by
      intro k hk
      rw [List.mem_toFinset]
      refine Table.mem_keys.2 (iterate_spread_induct (P := fun k => ∃ row, db.get k = some row) (fun k hk => ?_)
        (fun _ row _ _ hrow _ _ _ => ⟨row, hrow⟩) n k hk)
      exact (mem_selected.1 hk).2
    refine (Finset.card_le_card hsub).trans ((List.toFinset_card_le _).trans ?_)
    rw [List.length_map]
  have hsame : ∀ n, ((spread S db)^[n] start).card = ((spread S db)^[n + 1] start).card →
      (spread S db)^[n + 1] start = (spread S db)^[n] start := by
    intro n hn
    refine (Finset.eq_of_subset_of_card_le ?_ hn.ge).symm
    rw [hsucc]
    exact subset_spread
  have hstab := Nat.stabilises_of_monotone hmono hbound (fun n hn => ?_) (Nat.le_succ db.entries.length)
  · rw [doomed, ← hstart, ← hsucc]
    exact hsame _ hstab.symm
  · show ((spread S db)^[n + 1] start).card = ((spread S db)^[n + 2] start).card
    rw [hsucc (n + 1), hsame n hn, ← hsucc]
    exact hn

/-- A set of keys that may be taken away: with each of them the rows that go with it, and no row that stays refuses. -/
structure Deletable (S : Schema T C) (db : Db T C I δ) (D : Finset (T × I)) : Prop where
  cascade : ∀ k row, db.get k = some row → row.refersInto S .cascade D = true → k ∈ D
  restrict : ∀ k row, db.get k = some row → k ∉ D → row.refersInto S .restrict D = false

theorem deletable_doomed (h : ∀ k row, db.get k = some row → row.refersInto S .restrict (doomed S db sel) = false) :
    Deletable S db (doomed S db sel) where
  cascade k row hrow href := by
    rw [← spread_doomed]
    exact mem_spread.2 (.inr ⟨row, hrow, href⟩)
  restrict k row hrow _ := h k row hrow

theorem delete_eq_some {db' : Db T C I δ} :
    delete S db sel = some db' ↔
      (∀ k row, db.get k = some row → row.refersInto S .restrict (doomed S db sel) = false) ∧
        purge S db (doomed S db sel) = db' := by
  unfold delete
  rw [Option.ite_none_left_eq_some, Bool.not_eq_true, List.any_eq_false, Option.some_inj]
  refine and_congr_left fun _ => ⟨fun h k row hrow => ?_, fun h e he => ?_⟩
  · exact Bool.eq_false_iff.2 (h (k, row) (Table.mem_of_get hrow))
  · exact Bool.eq_false_iff.1 (h e.1 e.2 (Table.get_of_mem he))

/-- What a row that stays refers to stays. -/
theorem Deletable.target_not_mem (h : Deletable S db D) (hrow : db.get k = some row) (hk : k ∉ D) {col : C} {i : I}
    (hi : (row.cut S D).refs col = some i) : (S.target col, i) ∉ D := by
  obtain ⟨hi, hnull⟩ := Row.cut_refs.1 hi
  intro hD
  cases hact : S.onDelete col with
  | restrict =>
    have href := Row.refersInto_iff.2 ⟨col, i, hact, hi, hD⟩
    rw [h.restrict k row hrow hk] at href
    cases href
  | cascade => exact hk (h.cascade k row hrow (Row.refersInto_iff.2 ⟨col, i, hact, hi, hD⟩))
  | setNull => exact hnull hact hD

end Relational
