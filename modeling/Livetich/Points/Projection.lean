/-
The leaderboard projection agrees with the ledger as long as bumps and rebuilds do not cross: in
every run in which a bump is applied only once its row has committed, and a rebuild is written only
while the rows it has summed are exactly those whose bump is over, a built projection at rest gives
each student the sum of the committed deltas.

`award` starts its bump when the row is inserted, also inside a transaction that may yet roll back,
and a rebuild reads the ledger long before it writes the sorted set; the runs after the theorem
show a phantom, a doubled and a lost award.
-/
import Livetich.Points.Service

namespace Livetich.Points

open TransSys

/-! ## The property and the condition -/

/-- The row whose bump a task is. -/
def Task.bumps : Task → Option PointsLedger
  | .bumpExists row => some row
  | .bumpIncr row => some row
  | _ => none

/-- A bump or a rebuild. -/
def Task.updates : Task → Bool
  | .bumpExists _ | .bumpIncr _ | .rebuildRead | .rebuildWrite .. => true
  | .boardExists | .boardRead => false

theorem updates_of_bumps {t : Task} {row : PointsLedger} (h : t.bumps = some row) :
    t.updates = true := by
  cases t with
  | bumpExists r => rfl
  | bumpIncr r => rfl
  | boardExists => cases h
  | boardRead => cases h
  | rebuildRead => cases h
  | rebuildWrite counted rows => cases h

/-- No bump or rebuild is in progress. -/
def AtRest (s : State) : Prop := ∀ p ∈ s.tasks.entries, p.2.updates = false

/-- Each student's score is the sum of the student's committed deltas. -/
def Agrees (s : State) : Prop := ∀ u, s.zset.score u = total s.rows u

/-- The bump of a row is in progress. -/
def pending (s : State) (id : Nat) : Bool :=
  s.tasks.entries.any fun p => p.2.bumps.any fun row => row.id == id

/-- Every row inserted so far, committed or not. -/
def inserted (s : State) : List PointsLedger := s.rows ++ s.uncommitted.map (·.2)

/-- A bump is applied once its row has committed, and a rebuild is written while the rows it has
summed are those whose bump is over. -/
def Uncrossed (s : State) : Task → Prop
  | .bumpIncr row => row ∈ s.rows
  | .rebuildWrite counted _ => ∀ row ∈ inserted s, row.id ∈ counted ↔ pending s row.id = false
  | _ => True

def InStep (s : State) : Event → Prop
  | .resume i => ∀ t ∈ s.tasks.get i, Uncrossed s t
  | _ => True

instance : ∀ s t, Decidable (Uncrossed s t)
  | s, .bumpIncr row => inferInstanceAs (Decidable (row ∈ s.rows))
  | s, .rebuildWrite counted _ => inferInstanceAs
      (Decidable (∀ row ∈ inserted s, row.id ∈ counted ↔ pending s row.id = false))
  | _, .bumpExists _ | _, .boardExists | _, .boardRead | _, .rebuildRead =>
    inferInstanceAs (Decidable True)

instance : ∀ s e, Decidable (InStep s e)
  | s, .resume i => inferInstanceAs (Decidable (∀ t ∈ s.tasks.get i, Uncrossed s t))
  | _, .award .. | _, .commit _ | _, .rollback _ | _, .leaderboard _ | _, .expire =>
    inferInstanceAs (Decidable True)

instance (s : State) : Decidable (AtRest s) :=
  inferInstanceAs (Decidable (∀ p ∈ s.tasks.entries, p.2.updates = false))

/-! ## Which bumps are pending -/

theorem pending_iff {s : State} {id : Nat} : pending s id = true ↔
    ∃ i t row, s.tasks.get i = some t ∧ t.bumps = some row ∧ row.id = id := by
  unfold pending
  rw [List.any_eq_true]
  constructor
  · rintro ⟨⟨i, t⟩, hp, hb⟩
    obtain ⟨row, hrow, hid⟩ := (Option.any_eq_true ..).1 hb
    exact ⟨i, t, row, Pool.get_of_mem hp, hrow, by simpa using hid⟩
  · rintro ⟨i, t, row, ht, hrow, hid⟩
    refine ⟨(i, t), Pool.mem_of_get ht, ?_⟩
    show t.bumps.any _ = true
    rw [hrow]
    simpa using hid

/-- A task goes on with the same bump, or with none as before: the same bumps are pending. -/
theorem pending_goto_same {s : State} {i : Nat} {t : Option Task}
    (h : (s.tasks.get i).bind Task.bumps = t.bind Task.bumps) (id : Nat) :
    pending (s.goto i t) id = pending s id := by
  rw [Bool.eq_iff_iff, pending_iff, pending_iff]
  constructor
  · rintro ⟨j, u, row, hu, hrow, hid⟩
    rcases Pool.get_put_cases hu with ⟨rfl, rfl⟩ | ⟨-, hu⟩
    · rw [Option.bind_some, hrow] at h
      obtain ⟨v, hv, hvrow⟩ := Option.bind_eq_some_iff.1 h
      exact ⟨j, v, row, hv, hvrow, hid⟩
    · exact ⟨j, u, row, hu, hrow, hid⟩
  · rintro ⟨j, u, row, hu, hrow, hid⟩
    by_cases hji : j = i
    · subst hji
      rw [hu, Option.bind_some, hrow] at h
      obtain ⟨v, rfl, hvrow⟩ := Option.bind_eq_some_iff.1 h.symm
      exact ⟨j, v, row, Pool.get_put_self .., hvrow, hid⟩
    · exact ⟨j, u, row, (Pool.get_put_of_ne hji).trans hu, hrow, hid⟩

/-- Starting a bump in a free slot makes its row pending too. -/
theorem pending_goto_bump {s : State} {i : Nat} {row : PointsLedger} (hi : s.tasks.get i = none)
    (id : Nat) : pending (s.goto i (some (.bumpExists row))) id = (pending s id || row.id == id) := by
  rw [Bool.eq_iff_iff, Bool.or_eq_true, pending_iff, pending_iff, beq_iff_eq]
  constructor
  · rintro ⟨j, u, r, hu, hr, hid⟩
    rcases Pool.get_put_cases hu with ⟨-, hu⟩ | ⟨-, hu⟩
    · cases hu; cases hr
      exact .inr hid
    · exact .inl ⟨j, u, r, hu, hr, hid⟩
  · rintro (⟨j, u, r, hu, hr, hid⟩ | hid)
    · have hji : j ≠ i := by rintro rfl; rw [hi] at hu; cases hu
      exact ⟨j, u, r, (Pool.get_put_of_ne hji).trans hu, hr, hid⟩
    · exact ⟨i, _, row, Pool.get_put_self .., rfl, hid⟩

/-! ## The invariant -/

structure Inv (s : State) : Prop where
  ids : ((inserted s).map (·.id)).Nodup
  fresh : ∀ row ∈ inserted s, row.id < s.nextRow
  bumped : ∀ i t row, s.tasks.get i = some t → t.bumps = some row → row.id < s.nextRow
  /-- Each row has one bump. -/
  oneBump : ∀ i j t u row row', s.tasks.get i = some t → s.tasks.get j = some u →
    t.bumps = some row → u.bumps = some row' → row.id = row'.id → i = j
  /-- What a rebuild will write are the sums of the rows its read has counted. -/
  counted : ∀ i counted rows, s.tasks.get i = some (.rebuildWrite counted rows) →
    (∀ id ∈ counted, ∃ row ∈ s.rows, row.id = id) ∧
    ∀ u, rows.score u = total (s.rows.filter fun row => row.id ∈ counted) u
  /-- A built projection holds the committed rows whose bump is over; no other row lacks one. -/
  built : s.built = true →
    (∀ u, s.zset.score u = total (s.rows.filter fun row => !pending s row.id) u) ∧
    ∀ p ∈ s.uncommitted, pending s p.2.id = true

theorem inv_init (ledger : List (UserId × Int)) : Inv (init ledger) where
  ids := by
    simp only [inserted, init, List.map_nil, List.append_nil, List.map_map, Function.comp_def]
    rw [List.zipIdx_map_snd]
    exact List.nodup_range' ..
  fresh := by
    intro row hrow
    simp only [inserted, init, List.map_nil, List.append_nil, List.mem_map] at hrow
    obtain ⟨p, hp, rfl⟩ := hrow
    obtain ⟨hle, hlt, -⟩ := List.mem_zipIdx hp
    have : p.2 < ledger.length := by simpa using hlt
    exact this
  bumped := by simp [init]
  oneBump := by simp [init]
  counted := by simp [init]
  built := by simp [init]

/-- After the bump of a row has been applied the row alone is no longer pending. -/
theorem Inv.pending_done {s : State} (h : Inv s) {i : Nat} {t : Task} {row : PointsLedger}
    (ht : s.tasks.get i = some t) (hrow : t.bumps = some row) (id : Nat) :
    pending (s.goto i none) id = (pending s id && !(row.id == id)) := by
  rw [Bool.eq_iff_iff, Bool.and_eq_true, pending_iff, pending_iff]
  simp only [Bool.not_eq_true', beq_eq_false_iff_ne]
  constructor
  · rintro ⟨j, u, r, hu, hr, hid⟩
    rcases Pool.get_put_cases hu with ⟨-, hu⟩ | ⟨hji, hu⟩
    · cases hu
    · refine ⟨⟨j, u, r, hu, hr, hid⟩, fun he => hji ?_⟩
      exact h.oneBump j i u t r row hu ht hr hrow (hid.trans he.symm)
  · rintro ⟨⟨j, u, r, hu, hr, hid⟩, hne⟩
    have hji : j ≠ i := by
      rintro rfl
      rw [ht] at hu
      cases hu
      rw [hrow] at hr
      cases hr
      exact hne hid
    exact ⟨j, u, r, (Pool.get_put_of_ne hji).trans hu, hr, hid⟩

/-! ## Steps -/

namespace Inv

variable {s : State}

/-- A task goes on with the bump it was, and not to a rebuild's write. -/
theorem goto (h : Inv s) {i : Nat} {t : Option Task}
    (hsame : (s.tasks.get i).bind Task.bumps = t.bind Task.bumps)
    (hwrite : ∀ counted rows, t = some (.rebuildWrite counted rows) →
      (∀ id ∈ counted, ∃ row ∈ s.rows, row.id = id) ∧
      ∀ u, rows.score u = total (s.rows.filter fun row => row.id ∈ counted) u) :
    Inv (s.goto i t) := by
  -- what task `i` bumps after the step it bumped before
  have hback : ∀ j u row, (s.tasks.put i t).get j = some u → u.bumps = some row →
      ∃ v, s.tasks.get j = some v ∧ v.bumps = some row := by
    intro j u row hu hrow
    rcases Pool.get_put_cases hu with ⟨rfl, rfl⟩ | ⟨-, hu⟩
    · rw [Option.bind_some, hrow] at hsame
      exact Option.bind_eq_some_iff.1 hsame
    · exact ⟨u, hu, hrow⟩
  have hpending : ∀ id, pending (s.goto i t) id = pending s id := pending_goto_same hsame
  constructor
  · exact h.ids
  · exact h.fresh
  · intro j u row hu hrow
    obtain ⟨v, hv, hvrow⟩ := hback j u row hu hrow
    exact h.bumped j v row hv hvrow
  · intro j k u v row row' hu hv hrow hrow' hid
    obtain ⟨u', hu', hurow⟩ := hback j u row hu hrow
    obtain ⟨v', hv', hvrow⟩ := hback k v row' hv hrow'
    exact h.oneBump j k u' v' row row' hu' hv' hurow hvrow hid
  · intro j counted rows hu
    rcases Pool.get_put_cases hu with ⟨-, hu⟩ | ⟨-, hu⟩
    · exact hwrite counted rows hu
    · exact h.counted j counted rows hu
  · intro hb
    simp only [hpending]
    exact h.built hb

/-- Committed rows and rows of open transactions are different rows. -/
theorem ne_open (h : Inv s) {row : PointsLedger} (hrow : row ∈ s.rows) {p : Nat × PointsLedger}
    (hp : p ∈ s.uncommitted) : row.id ≠ p.2.id := by
  have hids := h.ids
  unfold inserted at hids
  rw [List.map_append] at hids
  exact (List.nodup_append.1 hids).2.2 _ (List.mem_map.2 ⟨row, hrow, rfl⟩) _
    (List.mem_map.2 ⟨p.2, List.mem_map.2 ⟨p, hp, rfl⟩, rfl⟩)

/-- A task ends. -/
theorem ends (h : Inv s) (i : Nat) {zset : Zset} {expires built : Bool} (hbuilt : built = true →
      (∀ u, zset.score u = total (s.rows.filter fun row => !pending (s.goto i none) row.id) u) ∧
      ∀ p ∈ s.uncommitted, pending (s.goto i none) p.2.id = true) :
    Inv ({ s with zset := zset, zsetExpires := expires, built := built }.goto i none) := by
  have hleft : ∀ j t, (s.tasks.put i none).get j = some t → s.tasks.get j = some t := by
    intro j t ht
    rcases Pool.get_put_cases ht with ⟨-, hu⟩ | ⟨-, hu⟩
    · cases hu
    · exact hu
  exact ⟨h.ids, h.fresh, fun j t r ht => h.bumped j t r (hleft j t ht),
    fun j k t u r r' ht hu => h.oneBump j k t u r r' (hleft j t ht) (hleft k u hu),
    fun j counted rows ht => h.counted j counted rows (hleft j _ ht), hbuilt⟩

/-! ### A new row -/

section

variable {row : PointsLedger} {i : Nat}

theorem ne_new (h : Inv s) (hrow : row.id = s.nextRow) {x : PointsLedger} (hx : x ∈ inserted s) : x.id ≠ row.id := by
  have hlt := h.fresh x hx
  omega

theorem insert_nodup (h : Inv s) (hrow : row.id = s.nextRow) : ((inserted s ++ [row]).map (·.id)).Nodup := by
  rw [List.map_append]
  refine List.nodup_append.2 ⟨h.ids, List.nodup_singleton _, ?_⟩
  intro a ha b hb
  obtain ⟨x, hx, rfl⟩ := List.mem_map.1 ha
  rw [List.mem_singleton.1 hb]
  exact h.ne_new hrow hx

theorem insert_fresh (h : Inv s) (hrow : row.id = s.nextRow) :
    ∀ x ∈ inserted s ++ [row], x.id < s.nextRow + 1 := by
  intro x hx
  rcases List.mem_append.1 hx with hx | hx
  · exact Nat.lt_succ_of_lt (h.fresh x hx)
  · rw [List.mem_singleton.1 hx, hrow]
    exact Nat.lt_succ_self _

theorem insert_bumps (h : Inv s) {j : Nat} {t : Task} {r : PointsLedger}
    (ht : (s.tasks.put i (some (.bumpExists row))).get j = some t) (hr : t.bumps = some r) :
    (j = i ∧ r = row) ∨ (s.tasks.get j = some t ∧ r.id < s.nextRow) := by
  rcases Pool.get_put_cases ht with ⟨hj, ht⟩ | ⟨-, ht⟩
  · cases ht
    cases hr
    exact .inl ⟨hj, rfl⟩
  · exact .inr ⟨ht, h.bumped j t r ht hr⟩

theorem insert_bumped (h : Inv s) (hrow : row.id = s.nextRow) : ∀ j t r,
    (s.tasks.put i (some (.bumpExists row))).get j = some t → t.bumps = some r → r.id < s.nextRow + 1 := by
  intro j t r ht hr
  rcases h.insert_bumps ht hr with ⟨-, rfl⟩ | ⟨-, hlt⟩
  · omega
  · omega

theorem insert_oneBump (h : Inv s) (hrow : row.id = s.nextRow) : ∀ j k t u r r',
    (s.tasks.put i (some (.bumpExists row))).get j = some t →
    (s.tasks.put i (some (.bumpExists row))).get k = some u →
    t.bumps = some r → u.bumps = some r' → r.id = r'.id → j = k := by
  intro j k t u r r' ht hu hr hr' hid
  rcases h.insert_bumps ht hr with ⟨rfl, rfl⟩ | ⟨ht, hlt⟩
  · rcases h.insert_bumps hu hr' with ⟨rfl, -⟩ | ⟨-, hlt'⟩
    · rfl
    · omega
  · rcases h.insert_bumps hu hr' with ⟨-, rfl⟩ | ⟨hu, -⟩
    · omega
    · exact h.oneBump j k t u r r' ht hu hr hr' hid

theorem insert_counted (h : Inv s) {j : Nat} {counted : List Nat} {rows : Zset}
    (ht : (s.tasks.put i (some (.bumpExists row))).get j = some (.rebuildWrite counted rows)) :
    (∀ id ∈ counted, ∃ row ∈ s.rows, row.id = id) ∧
    ∀ u, rows.score u = total (s.rows.filter fun row => row.id ∈ counted) u := by
  rcases Pool.get_put_cases ht with ⟨-, ht⟩ | ⟨-, ht⟩
  · cases ht
  · exact h.counted j counted rows ht

/-- The rows that lacked no bump lack none now. -/
theorem insert_filter (h : Inv s) (hi : s.tasks.get i = none) (hrow : row.id = s.nextRow) :
    (s.rows.filter fun x => !pending (s.goto i (some (.bumpExists row))) x.id) =
      s.rows.filter fun x => !pending s x.id := by
  refine List.filter_congr fun x hx => ?_
  have hne := h.ne_new hrow (List.mem_append_left _ hx)
  rw [pending_goto_bump hi, beq_eq_false_iff_ne.2 hne.symm, Bool.or_false]

end

theorem award (h : Inv s) {i : Nat} (hi : s.tasks.get i = none) (tx : Option Nat)
    (studentId : UserId) (delta : Int) : Inv (award s i tx studentId delta) := by
  let row : PointsLedger := ⟨s.nextRow, studentId, delta⟩
  have hrow : row.id = s.nextRow := rfl
  have hself : pending (s.goto i (some (.bumpExists row))) row.id = true := by
    rw [pending_goto_bump hi, beq_self_eq_true, Bool.or_true]
  have hopen : s.built = true → ∀ p ∈ s.uncommitted,
      pending (s.goto i (some (.bumpExists row))) p.2.id = true := by
    intro hb p hp
    rw [pending_goto_bump hi, (h.built hb).2 p hp, Bool.true_or]
  unfold Points.award
  cases tx with
  | none =>
    have hperm : (inserted { s with rows := s.rows ++ [row] }).Perm (inserted s ++ [row]) := by
      unfold inserted
      rw [List.append_assoc, List.append_assoc]
      exact List.perm_append_comm.append_left _
    refine ⟨((hperm.map _).nodup_iff).2 (h.insert_nodup hrow),
      fun x hx => h.insert_fresh hrow x (hperm.mem_iff.1 hx), h.insert_bumped hrow, h.insert_oneBump hrow, ?_, ?_⟩
    · intro j counted rows ht
      obtain ⟨hsub, hscore⟩ := h.insert_counted ht
      refine ⟨fun id hid => ?_, fun u => ?_⟩
      · obtain ⟨x, hx, hxid⟩ := hsub id hid
        exact ⟨x, List.mem_append_left _ hx, hxid⟩
      · -- no read has counted the new row
        have hnot : row.id ∉ counted := by
          intro hid
          obtain ⟨x, hx, hxid⟩ := hsub _ hid
          exact h.ne_new hrow (List.mem_append_left _ hx) hxid
        show rows.score u = total ((s.rows ++ [row]).filter fun r => r.id ∈ counted) u
        rw [List.filter_append, List.filter_cons_of_neg (by simpa using hnot), List.filter_nil,
          List.append_nil]
        exact hscore u
    · intro hb
      refine ⟨fun u => ?_, hopen hb⟩
      show s.zset.score u = total ((s.rows ++ [row]).filter fun x =>
        !pending (s.goto i (some (.bumpExists row))) x.id) u
      rw [List.filter_append, h.insert_filter hi hrow, List.filter_cons_of_neg (by simp [hself]),
        List.filter_nil, List.append_nil]
      exact (h.built hb).1 u
  | some t =>
    have hins : inserted { s with uncommitted := s.uncommitted ++ [(t, row)] } = inserted s ++ [row] := by
      unfold inserted
      rw [List.map_append, ← List.append_assoc]
      rfl
    refine ⟨?_, ?_, h.insert_bumped hrow, h.insert_oneBump hrow, fun j counted rows => h.insert_counted, ?_⟩
    · show ((inserted { s with uncommitted := s.uncommitted ++ [(t, row)] }).map (·.id)).Nodup
      rw [hins]
      exact h.insert_nodup hrow
    · show ∀ x ∈ inserted { s with uncommitted := s.uncommitted ++ [(t, row)] }, x.id < s.nextRow + 1
      rw [hins]
      exact h.insert_fresh hrow
    · intro hb
      refine ⟨fun u => ?_, fun p hp => ?_⟩
      · show s.zset.score u = total (s.rows.filter fun x =>
          !pending (s.goto i (some (.bumpExists row))) x.id) u
        rw [h.insert_filter hi hrow]
        exact (h.built hb).1 u
      · show pending (s.goto i (some (.bumpExists row))) p.2.id = true
        rcases List.mem_append.1 hp with hp | hp
        · exact hopen hb p hp
        · rw [List.mem_singleton.1 hp]
          exact hself

theorem commit (h : Inv s) (tx : Nat) :
    Inv { s with
      rows := s.rows ++ (s.uncommitted.filter (·.1 = tx)).map (·.2)
      uncommitted := s.uncommitted.filter (·.1 ≠ tx) } := by
  have hperm : (inserted { s with
      rows := s.rows ++ (s.uncommitted.filter (·.1 = tx)).map (·.2)
      uncommitted := s.uncommitted.filter (·.1 ≠ tx) }).Perm (inserted s) := by
    unfold inserted
    rw [List.append_assoc, ← List.map_append]
    refine (List.Perm.map _ ?_).append_left _
    simpa using List.filter_append_perm (fun p : Nat × PointsLedger => decide (p.1 = tx)) s.uncommitted
  -- a row of the transaction was not counted by any read, and its bump is not over
  have hnot : ∀ x ∈ (s.uncommitted.filter (·.1 = tx)).map (·.2), ∀ y ∈ s.rows, y.id ≠ x.id := by
    intro x hx y hy hxy
    obtain ⟨p, hp, rfl⟩ := List.mem_map.1 hx
    exact h.ne_open hy (List.mem_filter.1 hp).1 hxy
  refine ⟨((hperm.map _).nodup_iff).2 h.ids, fun row hrow => h.fresh row (hperm.mem_iff.1 hrow),
    h.bumped, h.oneBump, ?_, ?_⟩
  · intro j counted rows ht
    obtain ⟨hsub, hscore⟩ := h.counted j counted rows ht
    refine ⟨fun id hid => ?_, fun u => ?_⟩
    · obtain ⟨x, hx, hxid⟩ := hsub id hid
      exact ⟨x, List.mem_append_left _ hx, hxid⟩
    · have hnone : ((s.uncommitted.filter (·.1 = tx)).map (·.2)).filter
          (fun row => row.id ∈ counted) = [] := by
        rw [List.filter_eq_nil_iff]
        intro x hx hmem
        obtain ⟨y, hy, hyid⟩ := hsub x.id (by simpa using hmem)
        exact hnot x hx y hy hyid
      show rows.score u = total ((s.rows ++ _).filter fun row => row.id ∈ counted) u
      rw [List.filter_append, hnone, List.append_nil]
      exact hscore u
  · intro hb
    obtain ⟨hscore, hopen⟩ := h.built hb
    refine ⟨fun u => ?_, fun p hp => hopen p (List.mem_filter.1 hp).1⟩
    have hnone : ((s.uncommitted.filter (·.1 = tx)).map (·.2)).filter
        (fun row => !pending s row.id) = [] := by
      rw [List.filter_eq_nil_iff]
      intro x hx hmem
      obtain ⟨p, hp, rfl⟩ := List.mem_map.1 hx
      rw [hopen p (List.mem_filter.1 hp).1] at hmem
      cases hmem
    show s.zset.score u = total ((s.rows ++ _).filter fun row => !pending s row.id) u
    rw [List.filter_append, hnone, List.append_nil]
    exact hscore u

theorem rollback (h : Inv s) (tx : Nat) :
    Inv { s with uncommitted := s.uncommitted.filter (·.1 ≠ tx) } := by
  have hsub : (inserted { s with uncommitted := s.uncommitted.filter (·.1 ≠ tx) }).Sublist
      (inserted s) := (List.filter_sublist.map _).append_left _
  exact ⟨h.ids.sublist (hsub.map _), fun row hrow => h.fresh row (hsub.subset hrow), h.bumped,
    h.oneBump, h.counted, fun hb => ⟨(h.built hb).1, fun p hp =>
      (h.built hb).2 p (List.mem_filter.1 hp).1⟩⟩

end Inv

theorem resume_step {s : State} {i : Nat} {t : Task} (h : Inv s) (ht : s.tasks.get i = some t)
    (hok : Uncrossed s t) : Inv (resume s i t) := by
  have hbind : (s.tasks.get i).bind Task.bumps = t.bumps := by rw [ht]; rfl
  have hnowrite : ∀ {u : Option Task}, (∀ counted rows, u ≠ some (.rebuildWrite counted rows)) →
      ∀ counted rows, u = some (.rebuildWrite counted rows) →
        (∀ id ∈ counted, ∃ row ∈ s.rows, row.id = id) ∧
        ∀ v, rows.score v = total (s.rows.filter fun row => row.id ∈ counted) v :=
    fun hne counted rows hu => absurd hu (hne counted rows)
  cases t with
  | bumpExists row =>
    simp only [resume]
    by_cases hb : s.built = true
    · rw [if_pos hb]
      exact h.goto hbind (hnowrite (by intro _ _ hu; cases hu))
    · rw [if_neg hb]
      exact h.ends i fun hb' => absurd hb' hb
  | bumpIncr row =>
    have hrow : row ∈ s.rows := hok
    have hmem : row ∈ inserted s := List.mem_append_left _ hrow
    have hdone : ∀ id, pending (s.goto i none) id = (pending s id && !(row.id == id)) :=
      h.pending_done ht rfl
    have hself : pending s row.id = true := pending_iff.2 ⟨i, _, row, ht, rfl, rfl⟩
    simp only [resume]
    refine h.ends i fun hb => ?_
    obtain ⟨hscore, hopen⟩ := h.built hb
    refine ⟨fun u => ?_, fun p hp => ?_⟩
    · -- the row joins the rows whose bump is over
      have hgain := total_filter_insert (p := fun x => !pending s x.id) (r := row)
        (by simp [hself]) (h.ids.sublist ((List.sublist_append_left _ _).map _)) hrow u
      have hfilter : (s.rows.filter fun x => !pending (s.goto i none) x.id) =
          s.rows.filter fun x => !pending s x.id || x.id == row.id := by
        refine List.filter_congr fun x _ => ?_
        rw [hdone, Bool.not_and, Bool.not_not, Bool.beq_comm]
      rw [Zset.score_zincrby, hfilter, hgain, hscore u]
    · rw [hdone, hopen p hp, beq_eq_false_iff_ne.2 (h.ne_open hrow hp)]
      rfl
  | boardExists =>
    refine h.goto ?_ (hnowrite ?_)
    · rw [hbind]
      cases s.built <;> rfl
    · intro _ _ hu
      cases hb : s.built <;> rw [hb] at hu <;> cases hu
  | boardRead => exact h.goto hbind (hnowrite (by intro _ _ hu; cases hu))
  | rebuildRead =>
    refine h.goto hbind ?_
    intro counted rows hu
    cases hu
    refine ⟨fun id hid => List.mem_map.1 hid, fun u => ?_⟩
    have hall : (s.rows.filter fun row => row.id ∈ s.rows.map (·.id)) = s.rows :=
      List.filter_eq_self.2 fun row hrow => by simpa using ⟨row, hrow, rfl⟩
    rw [score_rebuildRows, hall]
  | rebuildWrite counted rows =>
    obtain ⟨hsub, hscore⟩ := h.counted i counted rows ht
    have hcross : ∀ row ∈ inserted s, row.id ∈ counted ↔ pending s row.id = false := hok
    have hsame : ∀ id, pending (s.goto i none) id = pending s id := pending_goto_same hbind
    simp only [resume]
    refine h.ends i fun _ => ⟨fun u => ?_, fun p hp => ?_⟩
    · rw [hscore u]
      congr 1
      refine List.filter_congr fun row hrow => ?_
      have hrow' := hcross row (List.mem_append_left _ hrow)
      rw [hsame]
      cases hp : pending s row.id with
      | false => simpa [hp] using hrow'
      | true => simpa [hp] using hrow'
    · rw [hsame]
      cases hpend : pending s p.2.id with
      | true => rfl
      | false =>
        -- an open row cannot have been read
        have hmem : p.2 ∈ s.uncommitted.map (·.2) := List.mem_map.2 ⟨p, hp, rfl⟩
        obtain ⟨row, hrow, hid⟩ := hsub _ ((hcross p.2 (List.mem_append_right _ hmem)).2 hpend)
        exact absurd hid (h.ne_open hrow hp)

theorem step_inv {s s' : State} {e : Event} (h : Inv s) (hok : InStep s e) (hs : step s e = some s') :
    Inv s' := by
  cases e with
  | award i tx studentId delta =>
    unfold step at hs
    simp only [Option.ite_none_right_eq_some, Option.some.injEq] at hs
    obtain ⟨hi, rfl⟩ := hs
    exact h.award hi tx studentId delta
  | commit tx =>
    cases hs
    exact h.commit tx
  | rollback tx =>
    cases hs
    exact h.rollback tx
  | leaderboard i =>
    unfold step at hs
    simp only [Option.ite_none_right_eq_some, Option.some.injEq] at hs
    obtain ⟨hi, rfl⟩ := hs
    exact h.goto (by rw [hi]; rfl) (by intro _ _ hu; cases hu)
  | resume i =>
    obtain ⟨t, ht, rfl⟩ := Option.map_eq_some_iff.1 hs
    exact resume_step h ht (hok t ht)
  | expire =>
    cases hs
    exact ⟨h.ids, h.fresh, h.bumped, h.oneBump, h.counted, by intro hb; cases hb⟩

/-! ## Every run -/

/-- In every run in which bumps and rebuilds do not cross, a built projection agrees with the
ledger whenever no bump or rebuild is in progress. -/
theorem projection_agrees (ledger : List (UserId × Int)) (es : List Event) (s : State)
    (hok : Meets step InStep (init ledger) es) (h : run step (init ledger) es = some s)
    (hbuilt : s.built = true) (hrest : AtRest s) : Agrees s := by
  have hi : Inv s := run_inv (fun _ _ _ hi hok hs => step_inv hi hok hs) (inv_init ledger) hok h
  have hnone : ∀ id, pending s id = false := by
    intro id
    cases hp : pending s id with
    | false => rfl
    | true =>
      obtain ⟨i, t, row, ht, hrow, -⟩ := pending_iff.1 hp
      have hidle : t.updates = false := hrest _ (Pool.mem_of_get ht)
      rw [updates_of_bumps hrow] at hidle
      cases hidle
  intro u
  rw [(hi.built hbuilt).1 u, List.filter_eq_self.2 fun row _ => by rw [hnone]; rfl]

/-! ## A phantom, a doubled and a lost award -/

namespace Example

/-- A cold leaderboard is read and built: task 0. -/
def build : List Event := [.leaderboard 0, .resume 0, .resume 0, .resume 0]

/-- The bump of an award in a transaction that then rolls back. -/
def phantom : List Event := build ++ [.award 1 (some 7) "a" 10, .resume 1, .resume 1, .rollback 7]

/-- An award falls before the read of a rebuild, its bump after the write. -/
def doubled : List Event :=
  [.leaderboard 0, .resume 0, .award 1 none "a" 10, .resume 0, .resume 0, .resume 1, .resume 1]

/-- An award falls after the read of a rebuild, its bump before the write. -/
def lost : List Event :=
  [.leaderboard 0, .resume 0, .resume 0, .award 1 none "a" 10, .resume 1, .resume 0]

/-- Awards before and after a build, one of them in a transaction that commits first. -/
def orderly : List Event :=
  [.award 1 none "a" 10, .resume 1] ++ build ++
    [.award 2 (some 7) "a" 25, .award 3 none "b" 5, .commit 7, .resume 3, .resume 2, .resume 2, .resume 3]

def scores (s : State) : Bool × Bool × Int × Int :=
  (s.built, decide (AtRest s), s.zset.score "a", total s.rows "a")

end Example

open Example in
theorem orderly_agrees :
    ((run step (init [("a", 3)]) orderly).map scores) = some (true, true, 38, 38) ∧
    ∀ s, run step (init [("a", 3)]) orderly = some s → s.built = true → AtRest s → Agrees s :=
  ⟨by decide, fun s h => projection_agrees [("a", 3)] orderly s (by decide) h⟩

open Example in
theorem phantom_disagrees :
    ¬ ∀ (ledger : List (UserId × Int)) (es : List Event) (s : State),
      run step (init ledger) es = some s → s.built = true → AtRest s → Agrees s := by
  intro h
  have hrun : ((run step (init []) phantom).map scores) = some (true, true, 10, 0) := by decide
  obtain ⟨s, hs, heq⟩ := Option.map_eq_some_iff.1 hrun
  simp only [scores, Prod.mk.injEq, decide_eq_true_eq] at heq
  obtain ⟨hbuilt, hrest, hscore, htotal⟩ := heq
  have := h [] phantom s hs hbuilt hrest "a"
  omega

open Example in
example : ((run step (init []) doubled).map scores) = some (true, true, 20, 10) := by decide

open Example in
example : ((run step (init []) lost).map scores) = some (true, true, 0, 10) := by decide

end Livetich.Points
