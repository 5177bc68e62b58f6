/-
Relational databases whose tables are owned: each row belongs to a row of the root table, found
along the owner columns of the tables on the way. The main result is about the statements that
delete what belongs to one root row: in an order that fits the references none of them is refused,
nothing of it is left, and every other row is as it was.
-/
import Livetich.Lib.Relational
import Livetich.Lib.TransSys

namespace Relational

open Livetich.Lib

variable {T C I δ : Type*} [DecidableEq T] [DecidableEq I]

/-! ## Paths -/

/-- The key reached along some columns; the row it is the key of need not be there. -/
def reach (S : Schema T C) (db : Db T C I δ) : List C → T × I → Option (T × I)
  | [], k => some k
  | col :: cols, k => (db.get k).bind fun row => (row.refs col).bind fun i => reach S db cols (S.target col, i)

theorem reach_cons {S : Schema T C} {db : Db T C I δ} {col : C} {cols : List C} {k j : T × I} :
    reach S db (col :: cols) k = some j ↔
      ∃ row i, db.get k = some row ∧ row.refs col = some i ∧ reach S db cols (S.target col, i) = some j := by
  rw [reach, Option.bind_eq_some_iff]
  constructor
  · rintro ⟨row, hrow, h⟩
    obtain ⟨i, hi, h⟩ := Option.bind_eq_some_iff.1 h
    exact ⟨row, i, hrow, hi, h⟩
  · rintro ⟨row, i, hrow, hi, h⟩
    exact ⟨row, hrow, Option.bind_eq_some_iff.2 ⟨i, hi, h⟩⟩

/-- The columns along which each table is owned by the root table. Some columns of the schema may cross from one
root row to another; they refer to the root table and own nothing. -/
structure Ownership (S : Schema T C) where
  root : T
  path : T → List C
  crossing : C → Bool
  path_root : path root = []
  path_nil : ∀ t, path t = [] → t = root
  path_cons : ∀ t o ps, path t = o :: ps → S.table o = t ∧ path (S.target o) = ps
  path_stays : ∀ t o ps, path t = o :: ps → S.onDelete o ≠ .setNull ∧ crossing o = false
  crossing_root : ∀ col, crossing col = true → S.target col = root

variable {S : Schema T C} {O : Ownership S} {db db' : Db T C I δ} {D : Finset (T × I)} {k j : T × I}
  {row row' : Row C I δ} {c a i : I} {col o : C} {ps : List C}

namespace Ownership

/-- The root row a row belongs to. -/
def home (O : Ownership S) (db : Db T C I δ) (k : T × I) : Option (T × I) := reach S db (O.path k.1) k

def Owned (O : Ownership S) (db : Db T C I δ) (k : T × I) (c : I) : Prop := O.home db k = some (O.root, c)

instance : Decidable (O.Owned db k c) := inferInstanceAs (Decidable (_ = _))

theorem owned_root : O.Owned db (O.root, a) c ↔ a = c := by
  unfold Owned home
  rw [O.path_root, reach, Option.some_inj, Prod.mk.injEq, and_iff_right rfl]

theorem owned_cons (hp : O.path k.1 = o :: ps) :
    O.Owned db k c ↔ ∃ row i, db.get k = some row ∧ row.refs o = some i ∧ O.Owned db (S.target o, i) c := by
  unfold Owned home
  rw [hp, reach_cons]
  simp only [(O.path_cons _ _ _ hp).2]

end Ownership

/-! ## Coherent databases -/

/-- Every reference is to a row that is there, and belongs where the row that refers to it belongs. -/
structure Coherent (O : Ownership S) (db : Db T C I δ) : Prop where
  typed : ∀ k row col i, db.get k = some row → row.refs col = some i → S.table col = k.1
  intact : ∀ k row col i, db.get k = some row → row.refs col = some i → ∃ q, db.get (S.target col, i) = some q
  same : ∀ k row col i c, db.get k = some row → row.refs col = some i → O.crossing col = false →
    O.Owned db (S.target col, i) c → O.Owned db k c

/-- No column that crosses over refers to this root row. -/
def Uncrossed (O : Ownership S) (db : Db T C I δ) (c : I) : Prop :=
  ∀ k row col, db.get k = some row → O.crossing col = true → row.refs col ≠ some c

theorem Coherent.owned (h : Coherent O db) (hunc : Uncrossed O db c) (hrow : db.get k = some row)
    (hi : row.refs col = some i) (howned : O.Owned db (S.target col, i) c) : O.Owned db k c := by
  cases hcross : O.crossing col with
  | false => exact h.same k row col i c hrow hi hcross howned
  | true =>
    rw [O.crossing_root col hcross] at howned
    rw [Ownership.owned_root.1 howned] at hi
    exact absurd hi (hunc k row col hrow hcross)

/-- Whatever the columns, what leads to a root row belongs to it. -/
theorem Coherent.owned_of_reach (h : Coherent O db) (hunc : Uncrossed O db c) :
    ∀ (p : List C) {k : T × I}, reach S db p k = some (O.root, c) → O.Owned db k c
  | [], k, hp => by
    rw [reach, Option.some_inj] at hp
    rw [hp]
    exact Ownership.owned_root.2 rfl
  | col :: p, k, hp => by
    obtain ⟨row, i, hrow, hi, hp⟩ := reach_cons.1 hp
    exact h.owned hunc hrow hi (h.owned_of_reach hunc p hp)

theorem coherent_empty (O : Ownership S) : Coherent O (Table.empty : Db T C I δ) where
  typed _ _ _ _ h := nomatch h
  intact _ _ _ _ h := nomatch h
  same _ _ _ _ _ h := nomatch h

/-! ### Taking keys away -/

theorem owned_of_purge (h : O.Owned (purge S db D) k c) : O.Owned db k c := by
  induction hp : O.path k.1 generalizing k with
  | nil =>
    obtain ⟨t, a⟩ := k
    obtain rfl := O.path_nil t hp
    exact Ownership.owned_root.2 (Ownership.owned_root.1 h)
  | cons o ps ih =>
    obtain ⟨row', i, hrow', hi, h⟩ := (Ownership.owned_cons hp).1 h
    obtain ⟨-, row, hrow, rfl⟩ := get_purge.1 hrow'
    refine (Ownership.owned_cons hp).2 ⟨row, i, hrow, (Row.cut_refs.1 hi).1, ?_⟩
    exact ih h (O.path_cons _ _ _ hp).2

theorem Deletable.owned_purge (hD : Deletable S db D) (hk : k ∉ D) (h : O.Owned db k c) :
    O.Owned (purge S db D) k c := by
  induction hp : O.path k.1 generalizing k with
  | nil =>
    obtain ⟨t, a⟩ := k
    obtain rfl := O.path_nil t hp
    exact Ownership.owned_root.2 (Ownership.owned_root.1 h)
  | cons o ps ih =>
    obtain ⟨row, i, hrow, hi, h⟩ := (Ownership.owned_cons hp).1 h
    have hcut : (row.cut S D).refs o = some i :=
      Row.cut_refs.2 ⟨hi, fun hnull => absurd hnull (O.path_stays _ _ _ hp).1⟩
    refine (Ownership.owned_cons hp).2 ⟨row.cut S D, i, get_purge.2 ⟨hk, row, hrow, rfl⟩, hcut, ?_⟩
    exact ih (hD.target_not_mem hrow hk hcut) h (O.path_cons _ _ _ hp).2

theorem Coherent.purge (h : Coherent O db) (hD : Deletable S db D) : Coherent O (purge S db D) where
  typed k row' col i hrow' hi := by
    obtain ⟨-, row, hrow, rfl⟩ := get_purge.1 hrow'
    exact h.typed k row col i hrow (Row.cut_refs.1 hi).1
  intact k row' col i hrow' hi := by
    obtain ⟨hk, row, hrow, rfl⟩ := get_purge.1 hrow'
    obtain ⟨q, hq⟩ := h.intact k row col i hrow (Row.cut_refs.1 hi).1
    exact ⟨q.cut S D, get_purge.2 ⟨hD.target_not_mem hrow hk hi, q, hq, rfl⟩⟩
  same k row' col i c hrow' hi hcross howned := by
    obtain ⟨hk, row, hrow, rfl⟩ := get_purge.1 hrow'
    exact hD.owned_purge hk (h.same k row col i c hrow (Row.cut_refs.1 hi).1 hcross (owned_of_purge howned))

theorem Uncrossed.purge (h : Uncrossed O db c) : Uncrossed O (purge S db D) c := by
  intro k row' col hrow' hcross hi
  obtain ⟨-, row, hrow, rfl⟩ := get_purge.1 hrow'
  exact h k row col hrow hcross (Row.cut_refs.1 hi).1

theorem Coherent.delete {sel : T × I → Bool} (h : Coherent O db) (hdel : delete S db sel = some db') :
    Coherent O db' := by
  obtain ⟨hrestrict, rfl⟩ := delete_eq_some.1 hdel
  exact h.purge (deletable_doomed hrestrict)

/-! ### Writing a row -/

/-- The row refers, from columns of its own table, to rows that are there and belong where it belongs. -/
def legal (O : Ownership S) (db : Db T C I δ) (k : T × I) (row : Row C I δ) : Bool :=
  S.columns.all fun col => (row.refs col).all fun i =>
    decide (S.table col = k.1) && (db.get (S.target col, i)).isSome &&
      (O.crossing col || decide (O.home db k = O.home db (S.target col, i)))

theorem legal_iff :
    legal O db k row = true ↔ ∀ col i, row.refs col = some i →
      S.table col = k.1 ∧ (∃ q, db.get (S.target col, i) = some q) ∧
        (O.crossing col = false → O.home db k = O.home db (S.target col, i)) := by
  unfold legal
  rw [List.all_eq_true]
  constructor
  · intro h col i hi
    have hcol := h col (S.mem_columns col)
    rw [hi, Option.all_some, Bool.and_eq_true, Bool.and_eq_true, Bool.or_eq_true, decide_eq_true_iff,
      decide_eq_true_iff, Option.isSome_iff_exists] at hcol
    refine ⟨hcol.1.1, hcol.1.2, fun hcross => hcol.2.resolve_left ?_⟩
    rw [hcross]
    exact Bool.false_ne_true
  · intro h col _
    cases hi : row.refs col with
    | none => rfl
    | some i =>
      obtain ⟨htable, hq, hhome⟩ := h col i hi
      rw [Option.all_some, Bool.and_eq_true, Bool.and_eq_true, Bool.or_eq_true, decide_eq_true_iff,
        decide_eq_true_iff, Option.isSome_iff_exists]
      refine ⟨⟨htable, hq⟩, ?_⟩
      cases hcross : O.crossing col with
      | true => exact .inl rfl
      | false => exact .inr (hhome hcross)

/-- A write of one row: the rows before it are there after it, each row belongs where it belonged, and the row
written is legal. -/
theorem Coherent.write (h : Coherent O db) (hlegal : legal O db' k row = true)
    (hget : ∀ j q, db'.get j = some q → db.get j = some q ∨ (j = k ∧ q = row))
    (hstays : ∀ j q, db.get j = some q → ∃ q', db'.get j = some q')
    (hhome : ∀ j q, db.get j = some q → O.home db' j = O.home db j) : Coherent O db' where
  typed j q col i hq hi := by
    rcases hget j q hq with hq | ⟨rfl, rfl⟩
    · exact h.typed j q col i hq hi
    · exact (legal_iff.1 hlegal col i hi).1
  intact j q col i hq hi := by
    rcases hget j q hq with hq | ⟨rfl, rfl⟩
    · obtain ⟨p, hp⟩ := h.intact j q col i hq hi
      exact hstays _ p hp
    · exact (legal_iff.1 hlegal col i hi).2.1
  same j q col i c hq hi hcross howned := by
    unfold Ownership.Owned at howned ⊢
    rcases hget j q hq with hq | ⟨rfl, rfl⟩
    · obtain ⟨p, hp⟩ := h.intact j q col i hq hi
      rw [hhome _ p hp] at howned
      rw [hhome j q hq]
      exact h.same j q col i c hq hi hcross howned
    · rw [(legal_iff.1 hlegal col i hi).2.2 hcross]
      exact howned

/-- A key no row is under is reached by no row. -/
theorem reach_insert (h : Coherent O db) (hk : db.get k = none) :
    ∀ (p : List C) {j : T × I}, j ≠ k → reach S (db.insert k row) p j = reach S db p j
  | [], _, _ => rfl
  | col :: p, j, hj => by
    rw [reach, reach, Table.get_insert hk, if_neg hj]
    cases hq : db.get j with
    | none => rfl
    | some q =>
      rw [Option.bind_some, Option.bind_some]
      cases hi : q.refs col with
      | none => rfl
      | some i =>
        refine reach_insert h hk p ?_
        rintro rfl
        obtain ⟨q', hq'⟩ := h.intact j q col i hq hi
        rw [hk] at hq'
        cases hq'

theorem Coherent.insert (h : Coherent O db) (hk : db.get k = none) (hlegal : legal O (db.insert k row) k row = true) :
    Coherent O (db.insert k row) := by
  refine h.write hlegal (fun j q hq => Table.get_insert_cases hq) (fun j q hq => ⟨q, ?_⟩) fun j q hq => ?_
  · exact Table.get_insert_of_some hq k row
  · refine reach_insert h hk _ ?_
    rintro rfl
    rw [hk] at hq
    cases hq

/-- The row keeps the reference that says where it belongs. -/
def sameOwner (O : Ownership S) (k : T × I) (old row : Row C I δ) : Bool :=
  (O.path k.1).head?.all fun o => decide (row.refs o = old.refs o)

theorem home_modify {old : Row C I δ} (hk : db.get k = some old) (hsame : sameOwner O k old row = true) :
    ∀ j, O.home (db.modify k fun _ => row) j = O.home db j := by
  intro j
  unfold Ownership.home
  induction hp : O.path j.1 generalizing j with
  | nil => rfl
  | cons o ps ih =>
    have hps := (O.path_cons _ _ _ hp).2
    have hrest : ∀ i, reach S (db.modify k fun _ => row) ps (S.target o, i) = reach S db ps (S.target o, i) :=
      fun i => ih (S.target o, i) hps
    rw [reach, reach, Table.get_modify]
    simp only [hrest]
    split
    · rename_i hj
      subst hj
      unfold sameOwner at hsame
      rw [hp, List.head?_cons, Option.all_some, decide_eq_true_iff] at hsame
      rw [hk, Option.map_some, Option.bind_some, Option.bind_some, hsame]
    · rfl

theorem Coherent.modify {old : Row C I δ} (h : Coherent O db) (hk : db.get k = some old)
    (hsame : sameOwner O k old row = true) (hlegal : legal O (db.modify k fun _ => row) k row = true) :
    Coherent O (db.modify k fun _ => row) := by
  refine h.write hlegal (fun j q hq => ?_) (fun j q hq => ?_) fun j _ _ => home_modify hk hsame j
  · rw [Table.get_modify] at hq
    split at hq
    · rename_i hj
      rw [hj, hk] at hq
      exact .inr ⟨hj, (Option.some.inj hq).symm⟩
    · exact .inl hq
  · rw [Table.get_modify]
    split
    · rw [hq]
      exact ⟨row, rfl⟩
    · exact ⟨q, hq⟩

/-! ## Deleting what belongs to a root row -/

/-- A delete of the rows of one table from which one of the paths leads to the root row. -/
structure Stmt (T C : Type*) where
  table : T
  paths : List (List C)

namespace Stmt

def selects (O : Ownership S) (c : I) (db : Db T C I δ) (st : Stmt T C) (k : T × I) : Bool :=
  decide (k.1 = st.table) && st.paths.any fun p => decide (reach S db p k = some (O.root, c))

def exec (O : Ownership S) (c : I) (db : Db T C I δ) (st : Stmt T C) : Option (Db T C I δ) :=
  delete S db (st.selects O c db)

/-- The statement empties the tables `now`, where the tables `gone` are empty already: it selects along the owner
columns of its table, the other tables of `now` go with those that own them, nothing else goes with them, and no
table that may hold rows refuses. -/
structure Fits (O : Ownership S) (gone now : List T) (st : Stmt T C) : Prop where
  own : O.path st.table ∈ st.paths
  head : st.table ∈ now
  under : ∀ t ∈ now, t = st.table ∨
    ((O.path t).head?.any fun o => decide (S.onDelete o = .cascade) && decide (S.target o ∈ now)) = true
  cascade : ∀ col ∈ S.columns, S.onDelete col = .cascade → S.target col ∈ now → S.table col ∈ now ∨ S.table col ∈ gone
  restrict : ∀ col ∈ S.columns, S.onDelete col = .restrict → S.target col ∈ now → S.table col ∈ gone

instance [DecidableEq C] {gone now : List T} {st : Stmt T C} : Decidable (st.Fits O gone now) :=
  decidable_of_iff
    (O.path st.table ∈ st.paths ∧ st.table ∈ now ∧
      (∀ t ∈ now, t = st.table ∨
        ((O.path t).head?.any fun o => decide (S.onDelete o = .cascade) && decide (S.target o ∈ now)) = true) ∧
      (∀ col ∈ S.columns, S.onDelete col = .cascade → S.target col ∈ now → S.table col ∈ now ∨ S.table col ∈ gone) ∧
      ∀ col ∈ S.columns, S.onDelete col = .restrict → S.target col ∈ now → S.table col ∈ gone)
    ⟨fun ⟨h₁, h₂, h₃, h₄, h₅⟩ => ⟨h₁, h₂, h₃, h₄, h₅⟩, fun ⟨h₁, h₂, h₃, h₄, h₅⟩ => ⟨h₁, h₂, h₃, h₄, h₅⟩⟩

end Stmt

/-- No row of these tables belongs to the root row. -/
def Vacated (O : Ownership S) (c : I) (gone : List T) (db : Db T C I δ) : Prop :=
  ∀ k row, db.get k = some row → O.Owned db k c → k.1 ∉ gone

/-- Only rows that belong to the root row are touched, and of these only the ones in some tables are gone. -/
structure Shrinks (O : Ownership S) (c : I) (gone : List T) (db db' : Db T C I δ) : Prop where
  kept : ∀ k, ¬O.Owned db k c → db'.get k = db.get k
  owned : ∀ k row', db'.get k = some row' → O.Owned db k c → O.Owned db' k c
  owned_of : ∀ k, O.Owned db' k c → O.Owned db k c
  spared : ∀ k row, db.get k = some row → k.1 ∉ gone → ∃ row', db'.get k = some row'

variable {gone now : List T} {st : Stmt T C} {sts : List (Stmt T C)}

theorem Shrinks.refl (db : Db T C I δ) : Shrinks O c gone db db :=
  ⟨fun _ _ => rfl, fun _ _ _ h => h, fun _ h => h, fun _ row hrow _ => ⟨row, hrow⟩⟩

theorem Shrinks.trans {db₁ db₂ : Db T C I δ} (h₁ : Shrinks O c gone db db₁) (h₂ : Shrinks O c gone db₁ db₂) :
    Shrinks O c gone db db₂ where
  kept k hk := (h₂.kept k fun h => hk (h₁.owned_of k h)).trans (h₁.kept k hk)
  owned k row' hrow' hk := by
    by_cases hk₁ : O.Owned db₁ k c
    · exact h₂.owned k row' hrow' hk₁
    · rw [h₂.kept k hk₁] at hrow'
      exact absurd (h₁.owned k row' hrow' hk) hk₁
  owned_of k hk := h₁.owned_of k (h₂.owned_of k hk)
  spared k row hrow hk := by
    obtain ⟨row₁, hrow₁⟩ := h₁.spared k row hrow hk
    exact h₂.spared k row₁ hrow₁ hk

theorem Shrinks.mono (h : Shrinks O c now db db') (hsub : now ⊆ gone) : Shrinks O c gone db db' :=
  ⟨h.kept, h.owned, h.owned_of, fun k row hrow hk => h.spared k row hrow fun hmem => hk (hsub hmem)⟩

theorem Deletable.shrinks (hD : Deletable S db D) (hcoh : Coherent O db) (hunc : Uncrossed O db c)
    (hin : ∀ k ∈ D, O.Owned db k c ∧ k.1 ∈ now) : Shrinks O c now db (purge S db D) where
  kept k hk := by
    have hnot : k ∉ D := fun hmem => hk (hin k hmem).1
    have hcut : ∀ row, db.get k = some row → row.cut S D = row := by
      intro row hrow
      refine Row.cut_of_not_refersInto (Bool.eq_false_iff.2 fun href => ?_)
      obtain ⟨col, i, -, hi, hmem⟩ := Row.refersInto_iff.1 href
      exact hk (hcoh.owned hunc hrow hi (hin _ hmem).1)
    apply Option.ext
    intro row
    rw [get_purge]
    constructor
    · rintro ⟨-, q, hq, rfl⟩
      rw [hcut q hq]
      exact hq
    · intro hrow
      exact ⟨hnot, row, hrow, hcut row hrow⟩
  owned k row' hrow' hk := hD.owned_purge (get_purge.1 hrow').1 hk
  owned_of _ hk := owned_of_purge hk
  spared k row hrow hk := ⟨row.cut S D, get_purge.2 ⟨fun hmem => hk (hin k hmem).2, row, hrow, rfl⟩⟩

namespace Stmt

theorem selects_own (hfit : st.Fits O gone now) (hk : k.1 = st.table) (h : O.Owned db k c) :
    st.selects O c db k = true := by
  unfold selects
  rw [decide_eq_true hk, Bool.true_and, List.any_eq_true]
  refine ⟨O.path st.table, hfit.own, ?_⟩
  rw [← hk]
  exact decide_eq_true h

theorem doomed_owned (hcoh : Coherent O db) (hunc : Uncrossed O db c) (hgone : Vacated O c gone db)
    (hfit : st.Fits O gone now) : ∀ k ∈ doomed S db (st.selects O c db), O.Owned db k c ∧ k.1 ∈ now := by
  refine doomed_induct (fun k row hrow hsel => ?_) fun k row col i hrow hcascade hi howned => ?_
  · obtain ⟨hk, hany⟩ := Bool.and_eq_true_iff.1 hsel
    obtain ⟨p, -, hp⟩ := List.any_eq_true.1 hany
    rw [of_decide_eq_true hk]
    exact ⟨hcoh.owned_of_reach hunc p (of_decide_eq_true hp), hfit.head⟩
  · have hk := hcoh.owned hunc hrow hi howned.1
    refine ⟨hk, ?_⟩
    have htable := hfit.cascade col (S.mem_columns col) hcascade howned.2
    rw [hcoh.typed k row col i hrow hi] at htable
    exact htable.resolve_right (hgone k row hrow hk)

/-- All that belongs to the root row in the tables the statement empties goes: in the statement's own table because
it is selected, in the others with the row that owns it. -/
theorem mem_doomed (hcoh : Coherent O db) (hfit : st.Fits O gone now)
    (hD : Deletable S db (doomed S db (st.selects O c db))) (hrow : db.get k = some row) (hk : O.Owned db k c)
    (hnow : k.1 ∈ now) : k ∈ doomed S db (st.selects O c db) := by
  induction hp : O.path k.1 generalizing k row with
  | nil =>
    rcases hfit.under k.1 hnow with htable | hhead
    · exact mem_doomed_of_sel hrow (selects_own hfit htable hk)
    · rw [hp] at hhead
      cases hhead
  | cons o ps ih =>
    rcases hfit.under k.1 hnow with htable | hhead
    · exact mem_doomed_of_sel hrow (selects_own hfit htable hk)
    · rw [hp, List.head?_cons, Option.any_some, Bool.and_eq_true, decide_eq_true_iff, decide_eq_true_iff] at hhead
      obtain ⟨q, i, hq, hi, howned⟩ := (Ownership.owned_cons hp).1 hk
      obtain ⟨r, hr⟩ := hcoh.intact k q o i hq hi
      have hmem := ih hr howned hhead.2 (O.path_cons _ _ _ hp).2
      exact hD.cascade k q hq (Row.refersInto_iff.2 ⟨o, i, hhead.1, hi, hmem⟩)

theorem exec_fits (hcoh : Coherent O db) (hunc : Uncrossed O db c) (hgone : Vacated O c gone db)
    (hfit : st.Fits O gone now) :
    ∃ db', st.exec O c db = some db' ∧ Coherent O db' ∧ Uncrossed O db' c ∧ Vacated O c (now ++ gone) db' ∧
      Shrinks O c now db db' := by
  have hin := doomed_owned hcoh hunc hgone hfit
  have hrestrict : ∀ k row, db.get k = some row →
      row.refersInto S .restrict (doomed S db (st.selects O c db)) = false := by
    intro k row hrow
    refine Bool.eq_false_iff.2 fun href => ?_
    obtain ⟨col, i, hact, hi, hmem⟩ := Row.refersInto_iff.1 href
    have htable := hfit.restrict col (S.mem_columns col) hact (hin _ hmem).2
    rw [hcoh.typed k row col i hrow hi] at htable
    exact hgone k row hrow (hcoh.owned hunc hrow hi (hin _ hmem).1) htable
  have hD := deletable_doomed hrestrict
  refine ⟨_, delete_eq_some.2 ⟨hrestrict, rfl⟩, hcoh.purge hD, hunc.purge, ?_, hD.shrinks hcoh hunc hin⟩
  intro k row' hrow' howned' hmem
  obtain ⟨hk, row, hrow, -⟩ := get_purge.1 hrow'
  have howned := owned_of_purge howned'
  rcases List.mem_append.1 hmem with hnow | hbefore
  · exact hk (mem_doomed hcoh hfit hD hrow howned hnow)
  · exact hgone k row hrow howned hbefore

end Stmt

/-! ### A list of statements -/

/-- Each statement fits where the ones before it have run; `below t` are the tables that go with table `t`. -/
def Orderly (O : Ownership S) (below : T → List T) : List T → List (Stmt T C) → Prop
  | _, [] => True
  | gone, st :: sts =>
    st.Fits O gone (st.table :: below st.table) ∧ Orderly O below (st.table :: below st.table ++ gone) sts

instance [DecidableEq C] (below : T → List T) : ∀ gone sts, Decidable (Orderly O below gone sts)
  | _, [] => inferInstanceAs (Decidable True)
  | gone, st :: sts =>
    have := instDecidableOrderlyOfDecidableEq below (st.table :: below st.table ++ gone) sts
    inferInstanceAs (Decidable (_ ∧ _))

/-- The tables that are empty after the statements. -/
def vacates (below : T → List T) : List T → List (Stmt T C) → List T
  | gone, [] => gone
  | gone, st :: sts => vacates below (st.table :: below st.table ++ gone) sts

omit [DecidableEq T] in
theorem subset_vacates {below : T → List T} : ∀ (gone : List T) (sts : List (Stmt T C)), gone ⊆ vacates below gone sts
  | gone, [] => List.Subset.refl gone
  | gone, _ :: sts => List.Subset.trans (List.subset_append_right _ gone) (subset_vacates _ sts)

def execAll (O : Ownership S) (c : I) (db : Db T C I δ) (sts : List (Stmt T C)) : Option (Db T C I δ) :=
  TransSys.run (fun db st => st.exec O c db) db sts

theorem Coherent.execAll (h : Coherent O db) (hexec : execAll O c db sts = some db') : Coherent O db' :=
  TransSys.run_keeps (I := Coherent O) (fun _ _ _ hdb hst => hdb.delete hst) h hexec

theorem execAll_orderly {below : T → List T} : ∀ {gone : List T} {sts : List (Stmt T C)} {db : Db T C I δ},
    Coherent O db → Uncrossed O db c → Vacated O c gone db → Orderly O below gone sts →
    ∃ db', execAll O c db sts = some db' ∧ Coherent O db' ∧ Uncrossed O db' c ∧
      Vacated O c (vacates below gone sts) db' ∧ Shrinks O c (vacates below gone sts) db db'
  | _, [], db, hcoh, hunc, hgone, _ => ⟨db, rfl, hcoh, hunc, hgone, Shrinks.refl db⟩
  | gone, st :: sts, db, hcoh, hunc, hgone, ⟨hfit, hrest⟩ => by
    obtain ⟨db₁, hexec, hcoh₁, hunc₁, hgone₁, hshrinks₁⟩ := Stmt.exec_fits hcoh hunc hgone hfit
    obtain ⟨db₂, hrun, hcoh₂, hunc₂, hgone₂, hshrinks₂⟩ := execAll_orderly hcoh₁ hunc₁ hgone₁ hrest
    refine ⟨db₂, TransSys.run_cons.2 ⟨db₁, hexec, hrun⟩, hcoh₂, hunc₂, hgone₂, Shrinks.trans ?_ hshrinks₂⟩
    exact hshrinks₁.mono (List.Subset.trans (List.subset_append_left _ gone) (subset_vacates _ sts))

end Relational
