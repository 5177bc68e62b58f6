/-
The points of one course: `PointsService.award`, `bumpProjection`, `leaderboard`, `readProjection`
and `rebuildProjection` as steps between awaits, over the ledger rows of the course and its two
Redis keys. Every row and key these functions touch belongs to one course, so one course is the
whole state. A row created inside a transaction is not in the ledger until the transaction commits.

Redis commands take effect in one step and do not fail; a MULTI is one step.
-/
import Mathlib.Algebra.Ring.Int.Defs
import Mathlib.Data.List.Dedup
import Mathlib.Data.List.Sort
import Livetich.Model
import Livetich.Lib.TransSys

namespace Livetich.Points

open TransSys

/-! ## The ledger -/

structure PointsLedger where
  id : Nat
  studentId : UserId
  delta : Int
  deriving DecidableEq

/-- The sum of a student's deltas. -/
def total (rows : List PointsLedger) (studentId : UserId) : Int :=
  ((rows.filter (·.studentId = studentId)).map (·.delta)).sum

@[simp] theorem total_nil (u : UserId) : total [] u = 0 := rfl

theorem total_cons (r : PointsLedger) (rows : List PointsLedger) (u : UserId) :
    total (r :: rows) u = (if r.studentId = u then r.delta else 0) + total rows u := by
  unfold total
  by_cases h : r.studentId = u
  · simp [h]
  · simp [h]

/-- Letting one more row through adds its delta. -/
theorem total_filter_insert {p : PointsLedger → Bool} {r : PointsLedger} (hp : p r = false) :
    ∀ {rows : List PointsLedger}, (rows.map (·.id)).Nodup → r ∈ rows → ∀ u,
      total (rows.filter fun x => p x || x.id == r.id) u =
        total (rows.filter p) u + if r.studentId = u then r.delta else 0
  | [], _, hr, _ => by cases hr
  | x :: rows, hnodup, hr, u => by
    obtain ⟨hx, hnodup⟩ := List.nodup_cons.1 hnodup
    by_cases hxr : x.id = r.id
    · -- the row itself: no other row has its id
      obtain rfl : x = r := by
        rcases List.mem_cons.1 hr with rfl | hr
        · rfl
        · exact absurd (List.mem_map.2 ⟨r, hr, hxr.symm⟩) hx
      have hrest : (rows.filter fun z => p z || z.id == x.id) = rows.filter p := by
        refine List.filter_congr fun z hz => ?_
        have hzx : z.id ≠ x.id := fun he => hx (List.mem_map.2 ⟨z, hz, he⟩)
        simp [hzx]
      rw [List.filter_cons_of_pos (by simp), List.filter_cons_of_neg (by simp [hp]), total_cons, hrest]
      omega
    · have hr' : r ∈ rows := by
        rcases List.mem_cons.1 hr with rfl | hr
        · exact absurd rfl hxr
        · exact hr
      have ih := total_filter_insert hp hnodup hr' u
      by_cases hpx : p x = true
      · rw [List.filter_cons_of_pos (by simp [hpx]), List.filter_cons_of_pos hpx, total_cons,
          total_cons, ih]
        omega
      · rw [List.filter_cons_of_neg (by simp [hpx, hxr]), List.filter_cons_of_neg hpx, ih]

/-! ## The sorted set -/

/-- A Redis sorted set, as its members with their scores. -/
abbrev Zset := List (UserId × Int)

def Zset.score (z : Zset) (member : UserId) : Int := ((z.find? (·.1 = member)).map (·.2)).getD 0

/-- `ZINCRBY`. -/
def Zset.zincrby (z : Zset) (increment : Int) (member : UserId) : Zset :=
  if z.any (·.1 = member) then
    z.map fun p => if p.1 = member then (p.1, p.2 + increment) else p
  else z ++ [(member, increment)]

theorem Zset.score_cons (p : UserId × Int) (z : Zset) (u : UserId) :
    Zset.score (p :: z) u = if p.1 = u then p.2 else Zset.score z u := by
  unfold Zset.score
  by_cases h : p.1 = u <;> simp [h]

theorem Zset.score_of_not_mem {z : Zset} {u : UserId} (h : u ∉ z.map (·.1)) : z.score u = 0 := by
  have : z.find? (·.1 = u) = none := by
    rw [List.find?_eq_none]
    intro p hp hpu
    exact h (List.mem_map.2 ⟨p, hp, by simpa using hpu⟩)
  unfold Zset.score
  rw [this]
  rfl

theorem Zset.score_of_mem : ∀ {z : Zset} {p : UserId × Int}, (z.map (·.1)).Nodup → p ∈ z →
    z.score p.1 = p.2
  | [], _, _, hp => by cases hp
  | q :: z, p, hnodup, hp => by
    obtain ⟨hq, hnodup⟩ := List.nodup_cons.1 hnodup
    rw [Zset.score_cons]
    rcases List.mem_cons.1 hp with rfl | hp
    · rw [if_pos rfl]
    · have hne : q.1 ≠ p.1 := fun he => hq (List.mem_map.2 ⟨p, hp, he.symm⟩)
      rw [if_neg hne]
      exact Zset.score_of_mem hnodup hp

theorem Zset.score_zincrby (z : Zset) (increment : Int) (member u : UserId) :
    (z.zincrby increment member).score u = z.score u + if member = u then increment else 0 := by
  have happend : ∀ w : Zset, member ∉ w.map (·.1) →
      Zset.score (w ++ [(member, increment)]) u = w.score u + if member = u then increment else 0 := by
    intro w hw
    by_cases hu : member = u
    · subst hu
      have hnone : w.find? (·.1 = member) = none := by
        rw [List.find?_eq_none]
        intro p hp hpm
        exact hw (List.mem_map.2 ⟨p, hp, by simpa using hpm⟩)
      rw [Zset.score_of_not_mem hw]
      unfold Zset.score
      rw [List.find?_append, hnone]
      simp
    · unfold Zset.score
      rw [List.find?_append]
      cases w.find? (·.1 = u) <;> simp [hu]
  unfold Zset.zincrby
  split
  · rename_i hany
    -- the member is there: its entry is the one that changes
    have hmap : ∀ w : Zset, Zset.score (w.map fun p =>
        if p.1 = member then (p.1, p.2 + increment) else p) u =
        if member ∈ w.map (·.1) then w.score u + (if member = u then increment else 0) else w.score u := by
      intro w
      induction w with
      | nil => simp
      | cons q w ih =>
        rw [List.map_cons, Zset.score_cons, Zset.score_cons]
        by_cases hq : q.1 = member
        · subst hq
          by_cases hu : q.1 = u
          · simp only [if_pos hu, List.map_cons, List.mem_cons, true_or, if_true]
          · simp only [if_neg hu, ih, List.map_cons, List.mem_cons, true_or, if_true, Int.add_zero, ite_self]
        · rw [if_neg hq]
          by_cases hu : q.1 = u
          · have : member ≠ u := fun h => hq (hu.trans h.symm)
            simp [hu, this]
          · simp only [if_neg hu, ih, List.map_cons, List.mem_cons, Ne.symm hq, false_or]
    rw [hmap]
    have hmem : member ∈ z.map (·.1) := by
      obtain ⟨p, hp, hpm⟩ := List.any_eq_true.1 hany
      exact List.mem_map.2 ⟨p, hp, by simpa using hpm⟩
    rw [if_pos hmem]
  · rename_i hany
    refine happend z fun hmem => hany ?_
    obtain ⟨p, hp, hpm⟩ := List.mem_map.1 hmem
    exact List.any_eq_true.2 ⟨p, hp, by simpa using hpm⟩

/-! ## The rebuild's rows -/

/-- The `groupBy` of `rebuildProjection`: a row for each student with ledger rows. -/
def sums (rows : List PointsLedger) : Zset :=
  (rows.map (·.studentId)).dedup.map fun u => (u, total rows u)

/-- The rows `rebuildProjection` returns and stores, highest points first. -/
def rebuildRows (rows : List PointsLedger) : Zset := (sums rows).insertionSort fun a b => b.2 ≤ a.2

theorem score_rebuildRows (rows : List PointsLedger) (u : UserId) :
    (rebuildRows rows).score u = total rows u := by
  have hperm : (rebuildRows rows).Perm (sums rows) := List.perm_insertionSort ..
  have hkeys : (sums rows).map (·.1) = (rows.map (·.studentId)).dedup := by
    unfold sums
    rw [List.map_map]
    exact List.map_id _
  have hnodup : ((rebuildRows rows).map (·.1)).Nodup := by
    rw [(hperm.map _).nodup_iff, hkeys]
    exact List.nodup_dedup _
  by_cases hu : u ∈ rows.map (·.studentId)
  · have hmem : (u, total rows u) ∈ rebuildRows rows :=
      hperm.mem_iff.2 (List.mem_map.2 ⟨u, List.mem_dedup.2 hu, rfl⟩)
    exact Zset.score_of_mem hnodup hmem
  · have hnot : u ∉ (rebuildRows rows).map (·.1) := by
      rw [(hperm.map _).mem_iff, hkeys, List.mem_dedup]
      exact hu
    rw [Zset.score_of_not_mem hnot]
    have hnil : rows.filter (·.studentId = u) = [] := by
      rw [List.filter_eq_nil_iff]
      intro r hr hru
      exact hu (List.mem_map.2 ⟨r, hr, by simpa using hru⟩)
    unfold total
    rw [hnil]
    rfl

/-! ## Tasks -/

/-- A call in flight, by what it waits for. -/
inductive Task
  /-- `bumpProjection` asks whether the projection is built. -/
  | bumpExists (row : PointsLedger)
  | bumpIncr (row : PointsLedger)
  /-- `readProjection` asks whether the projection is built. -/
  | boardExists
  | boardRead
  | rebuildRead
  /-- The MULTI of `rebuildProjection`, with the ids of the rows its read has summed. -/
  | rebuildWrite (counted : List Nat) (rows : Zset)
  deriving DecidableEq

structure State where
  /-- The committed ledger rows of the course. -/
  rows : List PointsLedger
  /-- Rows of open transactions, with the number of their transaction. -/
  uncommitted : List (Nat × PointsLedger)
  nextRow : Nat
  /-- `lb:<id>`. -/
  zset : Zset
  /-- `lb:<id>` has a time to live. -/
  zsetExpires : Bool
  /-- `lb:<id>:built` is set. -/
  built : Bool
  tasks : Pool Task

/-- A cold projection over a ledger. -/
def init (ledger : List (UserId × Int)) : State where
  rows := ledger.zipIdx.map fun p => ⟨p.2, p.1.1, p.1.2⟩
  uncommitted := []
  nextRow := ledger.length
  zset := []
  zsetExpires := false
  built := false
  tasks := Pool.empty

/-! ## Steps -/

/-- Task `i` goes on as `t`, or ends. -/
def State.goto (s : State) (i : Nat) (t : Option Task) : State := { s with tasks := s.tasks.put i t }

/-- The insert of `award` takes effect, and the bump of task `i` is started without waiting. -/
def award (s : State) (i : Nat) (tx : Option Nat) (studentId : UserId) (delta : Int) : State :=
  let row : PointsLedger := ⟨s.nextRow, studentId, delta⟩
  let s := { s with nextRow := s.nextRow + 1 }
  match tx with
  | none => { s with rows := s.rows ++ [row] }.goto i (some (.bumpExists row))
  | some t => { s with uncommitted := s.uncommitted ++ [(t, row)] }.goto i (some (.bumpExists row))

/-- The next step of task `t`, numbered `i`. What `leaderboard` does after it has the scores reads
names only. -/
def resume (s : State) (i : Nat) : Task → State
  | .bumpExists row => s.goto i (if s.built then some (.bumpIncr row) else none)
  | .bumpIncr row =>
    { s with
      zset := s.zset.zincrby row.delta row.studentId
      zsetExpires := s.zsetExpires && !s.zset.isEmpty }.goto i none
  | .boardExists => s.goto i (some (if s.built then .boardRead else .rebuildRead))
  | .boardRead => s.goto i none
  | .rebuildRead => s.goto i (some (.rebuildWrite (s.rows.map (·.id)) (rebuildRows s.rows)))
  | .rebuildWrite _ rows =>
    { s with
      zset := rows
      zsetExpires := !rows.isEmpty
      built := true }.goto i none

inductive Event
  /-- `award` inserts a row, in transaction `tx` or on its own. -/
  | award (i : Nat) (tx : Option Nat) (studentId : UserId) (delta : Int)
  | commit (tx : Nat)
  | rollback (tx : Nat)
  | leaderboard (i : Nat)
  /-- The call task `i` waits for takes effect, and the task goes on. -/
  | resume (i : Nat)
  /-- The keys of the last rebuild reach the end of their time to live. -/
  | expire
  deriving DecidableEq

def step (s : State) : Event → Option State
  | .award i tx studentId delta =>
    if s.tasks.get i = none then some (award s i tx studentId delta) else none
  | .commit tx => some { s with
      rows := s.rows ++ (s.uncommitted.filter (·.1 = tx)).map (·.2)
      uncommitted := s.uncommitted.filter (·.1 ≠ tx) }
  | .rollback tx => some { s with uncommitted := s.uncommitted.filter (·.1 ≠ tx) }
  | .leaderboard i => if s.tasks.get i = none then some (s.goto i (some .boardExists)) else none
  | .resume i => (s.tasks.get i).map (resume s i)
  | .expire => some { s with
      built := false
      zset := if s.zsetExpires then [] else s.zset }

end Livetich.Points
