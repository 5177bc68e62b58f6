/-
The leaderboard of a cold and of a warm projection. `rebuildProjection` sorts the groups of the
ledger by points alone and answers with them; the next `leaderboard` reads the sorted set it has
written, which Redis orders by score and, among equal scores, by member. The two answers agree
exactly if the database returned every two students with equal totals in descending order of id.
-/
import Mathlib.Data.String.Basic
import Livetich.Lib.TieBreak
import Livetich.Points.Service

namespace Livetich.Points.Leaderboard

/-! ## The calls -/

structure LeaderboardRow where
  userId : UserId
  name : String
  points : Int
  rank : Nat
  deriving DecidableEq

/-- A row of `groupBy` with the sum of the deltas. -/
structure PointsGroup where
  studentId : UserId
  sum : Option Int
  deriving DecidableEq

/-- The two Redis keys of the course. -/
structure Store where
  zset : Zset
  built : Bool

/-- `ZADD` of one member. -/
def zadd (z : Zset) (p : UserId × Int) : Zset :=
  if z.any (·.1 = p.1) then z.map fun q => if q.1 = p.1 then p else q else z ++ [p]

/-- Higher scores first, and among equal ones the greater member. -/
def revOrder (a b : UserId × Int) : Prop := b.2 < a.2 ∨ (b.2 = a.2 ∧ b.1 ≤ a.1)

instance : DecidableRel revOrder := fun a b => inferInstanceAs (Decidable (b.2 < a.2 ∨ (b.2 = a.2 ∧ b.1 ≤ a.1)))

/-- `ZREVRANGE` of the whole set. -/
def zrevrange (z : Zset) : Zset := z.insertionSort revOrder

/-- The comparator of `rebuildProjection`. -/
def byPoints (a b : UserId × Int) : Prop := b.2 ≤ a.2

instance : DecidableRel byPoints := fun a b => inferInstanceAs (Decidable (b.2 ≤ a.2))

def scores (groups : List PointsGroup) : Zset := groups.map fun g => (g.studentId, g.sum.getD 0)

/-- The rows, and the keys once the MULTI has run. -/
def rebuildProjection (groups : List PointsGroup) : Zset × Store :=
  let rows := (scores groups).insertionSort byPoints
  (rows, ⟨rows.foldl zadd [], true⟩)

def readProjection (s : Store) : Option Zset := if s.built then some (zrevrange s.zset) else none

/-- The rows with the names that `findMany` finds and their places. -/
def rank (users : List (UserId × String)) (rows : Zset) : List LeaderboardRow :=
  if rows.isEmpty then []
  else
    let found := users.filter fun u => (rows.map (·.1)).contains u.1
    rows.zipIdx.map fun p =>
      { userId := p.1.1
        name := ((found.reverse.find? (·.1 == p.1.1)).map (·.2)).getD "Unknown"
        points := p.1.2
        rank := p.2 + 1 }

/-- `leaderboard`, when `groupBy` returns `groups` and the user table is `users`. -/
def leaderboard (groups : List PointsGroup) (users : List (UserId × String)) (s : Store) :
    List LeaderboardRow × Store :=
  match readProjection s with
  | some rows => (rank users rows, s)
  | none => (rank users (rebuildProjection groups).1, (rebuildProjection groups).2)

/-! ## What the database returns -/

/-- `groups` are the groups of the ledger, in some order. -/
def Grouped (ledger : List PointsLedger) (groups : List PointsGroup) : Prop :=
  groups.Perm ((sums ledger).map fun p => ⟨p.1, some p.2⟩)

instance (ledger : List PointsLedger) (groups : List PointsGroup) : Decidable (Grouped ledger groups) :=
  inferInstanceAs (Decidable (List.Perm _ _))

section Groups

variable {ledger : List PointsLedger} {groups : List PointsGroup}

theorem Grouped.scores_perm (h : Grouped ledger groups) : (scores groups).Perm (sums ledger) := by
  have hmap := h.map fun g => (g.studentId, g.sum.getD 0)
  rw [List.map_map] at hmap
  have hid : (sums ledger).map ((fun g : PointsGroup => (g.studentId, g.sum.getD 0)) ∘
      fun p => ⟨p.1, some p.2⟩) = sums ledger := List.map_id _
  rwa [hid] at hmap

theorem members_sums (ledger : List PointsLedger) : (sums ledger).map (·.1) = (ledger.map (·.studentId)).dedup := by
  unfold sums
  rw [List.map_map]
  exact List.map_id _

theorem Grouped.members_nodup (h : Grouped ledger groups) : ((scores groups).map (·.1)).Nodup := by
  rw [(h.scores_perm.map _).nodup_iff, members_sums]
  exact List.nodup_dedup _

theorem Grouped.score_eq (h : Grouped ledger groups) {g : PointsGroup} (hg : g ∈ groups) :
    g.sum.getD 0 = total ledger g.studentId := by
  have hmem : (g.studentId, g.sum.getD 0) ∈ sums ledger := h.scores_perm.subset (List.mem_map.2 ⟨g, hg, rfl⟩)
  obtain ⟨u, -, hu⟩ := List.mem_map.1 hmem
  rw [Prod.mk.injEq] at hu
  rw [← hu.2, hu.1]

/-- The rebuild of the transition system is this one, for groups in the order it takes them. -/
theorem rebuildProjection_sums (ledger : List PointsLedger) :
    (rebuildProjection ((sums ledger).map fun p => ⟨p.1, some p.2⟩)).1 = rebuildRows ledger := by
  have hscores : scores ((sums ledger).map fun p => ⟨p.1, some p.2⟩) = sums ledger := by
    unfold scores
    rw [List.map_map]
    exact List.map_id _
  unfold rebuildProjection
  rw [hscores]
  rfl

end Groups

/-! ## The sorted set -/

theorem foldl_zadd : ∀ {rows z : Zset}, ((z ++ rows).map (·.1)).Nodup → rows.foldl zadd z = z ++ rows
  | [], z, _ => by rw [List.foldl_nil, List.append_nil]
  | p :: rows, z, h => by
    have hnot : ¬ (z.any (·.1 = p.1)) = true := by
      rw [List.any_eq_true]
      rintro ⟨q, hq, heq⟩
      rw [List.map_append, List.map_cons] at h
      exact (List.nodup_append.1 h).2.2 q.1 (List.mem_map_of_mem hq) p.1 List.mem_cons_self (by simpa using heq)
    have hz : zadd z p = z ++ [p] := by
      unfold zadd
      rw [if_neg hnot]
    rw [List.foldl_cons, hz, foldl_zadd (by rwa [List.append_assoc, List.singleton_append]), List.append_assoc,
      List.singleton_append]

/-! ## The answers -/

/-- The rows of an answer are those ranked, in their order. -/
theorem rank_rows (users : List (UserId × String)) (rows : Zset) :
    (rank users rows).map (fun r => (r.userId, r.points)) = rows := by
  unfold rank
  split
  · rename_i h
    rw [List.isEmpty_iff.1 h]
    rfl
  · dsimp only
    rw [List.map_map]
    exact List.zipIdx_map_fst ..

theorem rank_inj {users : List (UserId × String)} {rows rows' : Zset} :
    rank users rows = rank users rows' ↔ rows = rows' := by
  constructor
  · intro h
    rw [← rank_rows users rows, h, rank_rows]
  · rintro rfl
    rfl

instance : Std.Total byPoints := ⟨fun a b => le_total b.2 a.2⟩

instance : IsTrans (UserId × Int) byPoints := ⟨fun _ _ _ hab hbc => le_trans hbc hab⟩

instance : Std.Total revOrder where
  total a b := by
    rcases lt_trichotomy b.2 a.2 with h | h | h
    · exact .inl (.inl h)
    · rcases le_total b.1 a.1 with hm | hm
      · exact .inl (.inr ⟨h, hm⟩)
      · exact .inr (.inr ⟨h.symm, hm⟩)
    · exact .inr (.inl h)

instance : IsTrans (UserId × Int) revOrder where
  trans a b c := by
    rintro (hab | ⟨hab, hm⟩) (hbc | ⟨hbc, hn⟩)
    · exact .inl (lt_trans hbc hab)
    · exact .inl (hbc ▸ hab)
    · exact .inl (hab ▸ hbc)
    · exact .inr ⟨hbc.trans hab, le_trans hn hm⟩

theorem byPoints_of_revOrder {a b : UserId × Int} (h : revOrder a b) : byPoints a b := by
  rcases h with h | ⟨h, -⟩
  · exact le_of_lt h
  · exact le_of_eq h

section Calls

variable {ledger : List PointsLedger} {groups : List PointsGroup} {s : Store}

theorem leaderboard_cold (users : List (UserId × String)) (hcold : s.built = false) :
    leaderboard groups users s = (rank users (rebuildProjection groups).1, (rebuildProjection groups).2) := by
  unfold leaderboard readProjection
  rw [hcold]
  rfl

theorem leaderboard_rebuilt (h : Grouped ledger groups) (later : List PointsGroup) (users : List (UserId × String)) :
    (leaderboard later users (rebuildProjection groups).2).1 =
      rank users (zrevrange (rebuildProjection groups).1) := by
  have hperm : ((scores groups).insertionSort byPoints).Perm (scores groups) := List.perm_insertionSort ..
  have hzset : ((scores groups).insertionSort byPoints).foldl zadd [] = (scores groups).insertionSort byPoints :=
    foldl_zadd (z := []) ((hperm.map _).nodup_iff.2 h.members_nodup)
  show rank users (zrevrange (((scores groups).insertionSort byPoints).foldl zadd [])) = _
  rw [hzset]
  rfl

end Calls

/-! ## The theorem -/

/-- The answer once the projection is built, and the answer that has built it, are equal exactly if
of any two students with equal totals the one returned first has the greater id. -/
theorem warm_eq_cold_iff (ledger : List PointsLedger) (groups later : List PointsGroup)
    (users : List (UserId × String)) (s : Store) (hgroups : Grouped ledger groups) (hcold : s.built = false) :
    (leaderboard later users (leaderboard groups users s).2).1 = (leaderboard groups users s).1 ↔
      groups.Pairwise fun a b =>
        total ledger a.studentId = total ledger b.studentId → b.studentId ≤ a.studentId := by
  rw [leaderboard_cold users hcold, leaderboard_rebuilt hgroups, rank_inj]
  unfold zrevrange rebuildProjection
  rw [TieBreak.insertionSort_insertionSort_iff (fun _ _ => byPoints_of_revOrder)
    (List.Nodup.of_map _ hgroups.members_nodup), scores, List.pairwise_map]
  refine List.Pairwise.iff_of_mem fun {a b} ha hb => ?_
  rw [← hgroups.score_eq ha, ← hgroups.score_eq hb]
  unfold byPoints revOrder
  constructor
  · intro h heq
    rcases h (le_of_eq heq.symm) (le_of_eq heq) with hlt | ⟨-, hle⟩
    · exact absurd heq (ne_of_gt hlt)
    · exact hle
  · intro h hba hab
    have heq := le_antisymm hab hba
    exact .inr ⟨heq.symm, h heq⟩

namespace Example

def ledger : List PointsLedger :=
  [⟨0, "amina", 10⟩, ⟨1, "bilal", 25⟩, ⟨2, "chidi", 10⟩, ⟨3, "bilal", -25⟩, ⟨4, "dania", -5⟩, ⟨5, "emeka", 0⟩]

def users : List (UserId × String) := [("amina", "Amina"), ("bilal", "Bilal"), ("chidi", "Chidi"), ("dania", "Dania")]

def descending : List PointsGroup :=
  [⟨"emeka", some 0⟩, ⟨"dania", some (-5)⟩, ⟨"chidi", some 10⟩, ⟨"bilal", some 0⟩, ⟨"amina", some 10⟩]

def ascending : List PointsGroup := descending.reverse

end Example

open Example in
theorem descending_warm :
    (leaderboard [] users (leaderboard descending users ⟨[], false⟩).2).1 =
      (leaderboard descending users ⟨[], false⟩).1 :=
  (warm_eq_cold_iff ledger descending [] users ⟨[], false⟩ (by decide) rfl).2 (by decide)

open Example in
theorem ascending_warm :
    Grouped ledger ascending ∧
    ((leaderboard ascending users ⟨[], false⟩).1.map fun r => (r.userId, r.rank)) =
      [("amina", 1), ("chidi", 2), ("bilal", 3), ("emeka", 4), ("dania", 5)] ∧
    ((leaderboard [] users (leaderboard ascending users ⟨[], false⟩).2).1.map fun r => (r.userId, r.rank)) =
      [("chidi", 1), ("amina", 2), ("emeka", 3), ("bilal", 4), ("dania", 5)] ∧
    (leaderboard [] users (leaderboard ascending users ⟨[], false⟩).2).1 ≠
      (leaderboard ascending users ⟨[], false⟩).1 := by
  decide

end Livetich.Points.Leaderboard
