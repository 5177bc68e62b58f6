/-
The limits on the images of a class, over every interleaving of uploads that may fail at their storage writes. What an
upload holds of the two counters it holds from its reservation on; one that fails gives the count and the bytes back by
two commands, and between them the counters disagree.
-/
import Livetich.Board.Assets
import Livetich.Lib.Tally
import Mathlib.Algebra.Order.Group.Int
import Mathlib.Algebra.Order.Monoid.Prod

namespace Livetich.Board.Assets

open TransSys Livetich.Lib Pool

/-! ## Statements -/

section Statements

variable {Session : Type} [DecidableEq Session]

/-- What the limits count of an upload: one image, and its bytes. -/
def Upload.cost (u : Upload Session) : ℤ × ℤ := (1, u.size)

/-- What one of the commands gives back to the counters. -/
def Undo.amount (u : Upload Session) : Undo → ℤ × ℤ
  | .count => (1, 0)
  | .bytes => (0, u.size)
  | _ => 0

/-- What an upload holds of the counters of a session. -/
def Stage.held (session : Session) : Stage Session → ℤ × ℤ
  | .sadd u _ | .putAsset u _ | .putType u _ | .putSession u _ => if u.session = session then u.cost else 0
  | .undo u _ left => if u.session = session then (left.map (Undo.amount u)).sum else 0
  | _ => 0

/-- An upload has its image in the index of a session. -/
def Stage.Indexed (session : Session) (id : AssetId) : Stage Session → Prop
  | .putAsset u id' | .putType u id' | .putSession u id' => u.session = session ∧ id' = id
  | .undo u id' left => u.session = session ∧ id' = id ∧ .index ∈ left
  | _ => False

def Store.counters (s : Store Session) (session : Session) : ℤ × ℤ := (s.count session, s.bytes session)

def State.storedIn (s : State Session) (session : Session) : List (AssetId × Upload Session) :=
  s.stored.filter (·.2.session = session)

/-- A stage that writes to the object store. -/
def Stage.puts : Stage Session → Bool
  | .putAsset .. | .putType .. | .putSession .. => true
  | _ => false

/-- Uploads only; of their requests only those that write to the object store may fail. -/
def OnlyUploads (s : State Session) : Event Session → Prop
  | .serve .. | .undoFails .. => False
  | .fail i _ => (s.tasks.get i).any Stage.puts = true
  | _ => True

instance (s : State Session) : ∀ e, Decidable (OnlyUploads s e)
  | .serve .. | .undoFails .. => inferInstanceAs (Decidable False)
  | .fail i _ => inferInstanceAs (Decidable ((s.tasks.get i).any Stage.puts = true))
  | .upload .. | .resume .. | .undo .. | .edit .. | .change .. => inferInstanceAs (Decidable True)

/-- Nothing was uploaded yet. -/
structure Untouched (s : State Session) : Prop where
  tasks : s.tasks = .empty
  stored : s.stored = []
  index : ∀ session, s.index session = []
  counters : ∀ session, s.counters session = 0

/-- The limits hold, and the counters and the index are those of the uploads that hold something and of the images that
are stored. -/
structure WithinQuota (s : State Session) (session : Session) : Prop where
  few : (s.storedIn session).length ≤ maxSessionAssets
  small : ((s.storedIn session).map (·.2.size)).sum ≤ maxSessionAssetBytes
  count : s.count session = (s.tasks.total (Stage.held session)).1 + (s.storedIn session).length
  bytes : s.bytes session =
    (s.tasks.total (Stage.held session)).2 + (((s.storedIn session).map (·.2.size)).sum : ℕ)
  index : ∀ id, id ∈ s.index session ↔ (∃ i stage, s.tasks.get i = some stage ∧ stage.Indexed session id) ∨
    ∃ u, (id, u) ∈ s.storedIn session

end Statements

/-! ## The books -/

section Books

variable {Session : Type} [DecidableEq Session] {host : Host Session} {s t : State Session}

/-- The id that an upload has drawn. -/
def Stage.assetId : Stage Session → Option AssetId
  | .sadd _ id | .putAsset _ id | .putType _ id | .putSession _ id | .undo _ id _ => some id
  | _ => none

/-- A stage of `upload`; no command is sent twice. -/
def Stage.OfUpload : Stage Session → Prop
  | .reserve _ | .sadd .. | .putAsset .. | .putType .. | .putSession .. => True
  | .undo _ _ left => left.Nodup
  | _ => False

omit [DecidableEq Session] in
theorem puts_cases {stage : Stage Session} (h : stage.puts = true) :
    ∃ u id, stage = .putAsset u id ∨ stage = .putType u id ∨ stage = .putSession u id := by
  cases stage with
  | putAsset u id => exact ⟨u, id, .inl rfl⟩
  | putType u id => exact ⟨u, id, .inr (.inl rfl)⟩
  | putSession u id => exact ⟨u, id, .inr (.inr rfl)⟩
  | _ => cases h

/-- What the stored images have of the counters. -/
def State.kept (s : State Session) (session : Session) : ℤ × ℤ := ((s.storedIn session).map (·.2.cost)).sum

omit [DecidableEq Session] in
theorem assetId_of_indexed {session : Session} {id : AssetId} {stage : Stage Session} (h : stage.Indexed session id) :
    stage.assetId = some id := by
  cases stage with
  | putAsset u id' | putType u id' | putSession u id' => exact congrArg some h.2
  | undo u id' left => exact congrArg some h.2.1
  | _ => cases h

/-- The invariant of the uploads. -/
structure Accounted (s : State Session) : Prop where
  uploads : ∀ i stage, s.tasks.get i = some stage → stage.OfUpload
  counters : ∀ session, s.counters session = s.tasks.total (Stage.held session) + s.kept session
  room : ∀ session, s.count session ≤ maxSessionAssets ∧ s.bytes session ≤ maxSessionAssetBytes
  index : ∀ session id, id ∈ s.index session ↔
    (∃ i stage, s.tasks.get i = some stage ∧ stage.Indexed session id) ∨ ∃ u, (id, u) ∈ s.storedIn session
  fresh : ∀ i stage id, s.tasks.get i = some stage → stage.assetId = some id → id ∈ s.drawn ∧ ∀ u, (id, u) ∉ s.stored
  drawn : ∀ e ∈ s.stored, e.1 ∈ s.drawn
  distinct : s.tasks.Exclusive Stage.assetId

/-- What is indexed besides what the task in a slot has indexed is what the others have. -/
theorem Accounted.others (h : Accounted s) (i : Nat) (session : Session) (id : AssetId) :
    (id ∈ s.index session ∧ ¬∃ stage, s.tasks.get i = some stage ∧ stage.Indexed session id) ↔
      (∃ j stage, j ≠ i ∧ s.tasks.get j = some stage ∧ stage.Indexed session id) ∨
        ∃ u, (id, u) ∈ s.storedIn session := by
  constructor
  · rintro ⟨hid, hnot⟩
    rcases (h.index session id).1 hid with ⟨j, stage, hstage, hindexed⟩ | hstored
    · refine .inl ⟨j, stage, fun heq => ?_, hstage, hindexed⟩
      subst heq
      exact hnot ⟨stage, hstage, hindexed⟩
    · exact .inr hstored
  · rintro (⟨j, stage, hj, hstage, hindexed⟩ | ⟨u, hu⟩)
    · refine ⟨(h.index session id).2 (.inl ⟨j, stage, hstage, hindexed⟩), ?_⟩
      rintro ⟨other, hother, hindexed'⟩
      exact h.distinct i other id hother (assetId_of_indexed hindexed') j stage hj hstage (assetId_of_indexed hindexed)
    · refine ⟨(h.index session id).2 (.inr ⟨u, hu⟩), ?_⟩
      rintro ⟨other, hother, hindexed'⟩
      exact (h.fresh i other id hother (assetId_of_indexed hindexed')).2 u (List.mem_filter.1 hu).1

/-- A step that puts a task in a slot in place of another one, with what it may do to the books. -/
structure Move (s t : State Session) (i : Nat) (next : Option (Stage Session)) (new : List (AssetId × Upload Session)) :
    Prop where
  tasks : t.tasks = s.tasks.put i next
  stored : t.stored = new ++ s.stored
  uploads : ∀ stage, next = some stage → stage.OfUpload
  counters : ∀ session,
    t.counters session + (holding (Stage.held session) (s.tasks.get i) + s.kept session) =
      s.counters session + (holding (Stage.held session) next + t.kept session)
  room : ∀ session, t.count session ≤ maxSessionAssets ∧ t.bytes session ≤ maxSessionAssetBytes
  index : ∀ session id, id ∈ t.index session ↔
    (id ∈ s.index session ∧ ¬∃ stage, s.tasks.get i = some stage ∧ stage.Indexed session id) ∨
      (∃ stage, next = some stage ∧ stage.Indexed session id) ∨ ∃ u, (id, u) ∈ new ∧ u.session = session
  /-- A task keeps its id while nothing is stored, or draws a new one. -/
  id : ∀ id, next.bind Stage.assetId = some id →
    new = [] ∧ id ∈ t.drawn ∧ ((s.tasks.get i).bind Stage.assetId = some id ∨ id ∉ s.drawn)
  drawn : s.drawn ⊆ t.drawn
  new : ∀ e ∈ new, (s.tasks.get i).bind Stage.assetId = some e.1

theorem mem_storedIn {session : Session} {id : AssetId} {u : Upload Session} :
    (id, u) ∈ s.storedIn session ↔ (id, u) ∈ s.stored ∧ u.session = session := by
  unfold State.storedIn
  rw [List.mem_filter, decide_eq_true_iff]

section Moved

variable {i : Nat} {next : Option (Stage Session)} {new : List (AssetId × Upload Session)}

theorem Move.get_iff (h : Move s t i next new) {j : Nat} {stage : Stage Session} :
    t.tasks.get j = some stage ↔ (j = i ∧ next = some stage) ∨ (j ≠ i ∧ s.tasks.get j = some stage) := by
  rw [h.tasks]
  constructor
  · exact get_put_cases
  · rintro (⟨rfl, hj⟩ | ⟨hne, hj⟩)
    · rw [get_put_self, hj]
    · rw [get_put_of_ne hne, hj]

theorem Move.storedIn_iff (h : Move s t i next new) {session : Session} {id : AssetId} {u : Upload Session} :
    (id, u) ∈ t.storedIn session ↔ ((id, u) ∈ new ∧ u.session = session) ∨ (id, u) ∈ s.storedIn session := by
  rw [mem_storedIn, mem_storedIn, h.stored, List.mem_append, or_and_right]

/-- The id of the task is not one of another task, nor of a stored image. -/
theorem Accounted.own_id (hs : Accounted s) {id : AssetId} (hid : (s.tasks.get i).bind Stage.assetId = some id) :
    (id ∈ s.drawn ∧ ∀ u, (id, u) ∉ s.stored) ∧
      ∀ j stage, j ≠ i → s.tasks.get j = some stage → stage.assetId ≠ some id := by
  obtain ⟨stage, hstage, hassetId⟩ := Option.bind_eq_some_iff.1 hid
  refine ⟨hs.fresh i stage id hstage hassetId, fun j other hj hother => ?_⟩
  exact hs.distinct i stage id hstage hassetId j other hj hother

theorem Accounted.index_move (hs : Accounted s) (h : Move s t i next new) (session : Session) (id : AssetId) :
    id ∈ t.index session ↔ (∃ j stage, t.tasks.get j = some stage ∧ stage.Indexed session id) ∨
      ∃ u, (id, u) ∈ t.storedIn session := by
  rw [h.index, hs.others i session id]
  constructor
  · rintro ((⟨j, stage, hj, hstage, hindexed⟩ | ⟨u, hu⟩) | ⟨stage, hstage, hindexed⟩ | ⟨u, hu⟩)
    · exact .inl ⟨j, stage, h.get_iff.2 (.inr ⟨hj, hstage⟩), hindexed⟩
    · exact .inr ⟨u, h.storedIn_iff.2 (.inr hu)⟩
    · exact .inl ⟨i, stage, h.get_iff.2 (.inl ⟨rfl, hstage⟩), hindexed⟩
    · exact .inr ⟨u, h.storedIn_iff.2 (.inl hu)⟩
  · rintro (⟨j, stage, hstage, hindexed⟩ | ⟨u, hu⟩)
    · rcases h.get_iff.1 hstage with ⟨-, hnext⟩ | ⟨hj, hstage⟩
      · exact .inr (.inl ⟨stage, hnext, hindexed⟩)
      · exact .inl (.inl ⟨j, stage, hj, hstage, hindexed⟩)
    · rcases h.storedIn_iff.1 hu with hnew | hstored
      · exact .inr (.inr ⟨u, hnew⟩)
      · exact .inl (.inr ⟨u, hstored⟩)

end Moved

theorem Accounted.move (hs : Accounted s) {i : Nat} (next : Option (Stage Session))
    (new : List (AssetId × Upload Session)) (h : Move s t i next new) : Accounted t := by
  refine ⟨fun j stage hj => ?_, fun session => ?_, h.room, hs.index_move h, fun j stage id hj hid => ?_, ?_, ?_⟩
  · rcases h.get_iff.1 hj with ⟨-, hnext⟩ | ⟨-, hj⟩
    · exact h.uploads stage hnext
    · exact hs.uploads j stage hj
  · rw [h.tasks]
    exact balance_put (hs.counters session) (h.counters session)
  · rcases h.get_iff.1 hj with ⟨-, rfl⟩ | ⟨hne, hj⟩
    · obtain ⟨hnew, hdrawn, hcases⟩ := h.id id hid
      refine ⟨hdrawn, fun u hu => ?_⟩
      rw [h.stored, hnew, List.nil_append] at hu
      -- The task has kept the id it had, or has drawn one that no image was stored under.
      rcases hcases with hsame | hfresh
      · exact (hs.own_id hsame).1.2 u hu
      · exact hfresh (hs.drawn _ hu)
    · obtain ⟨hdrawn, hstored⟩ := hs.fresh j stage id hj hid
      refine ⟨h.drawn hdrawn, fun u hu => ?_⟩
      rw [h.stored] at hu
      rcases List.mem_append.1 hu with hnew | hu
      · exact (hs.own_id (h.new _ hnew)).2 j stage hne hj hid
      · exact hstored u hu
  · intro e he
    rw [h.stored] at he
    rcases List.mem_append.1 he with hnew | he
    · exact h.drawn (hs.own_id (h.new e hnew)).1.1
    · exact h.drawn (hs.drawn e he)
  · rw [h.tasks]
    refine hs.distinct.put i fun id hid => ?_
    rcases (h.id id hid).2.2 with hsame | hfresh
    · exact (hs.own_id hsame).2
    · intro j stage _ hj hassetId
      exact hfresh (hs.fresh j stage id hj hassetId).1

/-! ## Steps -/

/-- Nothing is written to the books. -/
structure SameBooks (s t : State Session) : Prop where
  count : t.count = s.count
  bytes : t.bytes = s.bytes
  index : t.index = s.index
  drawn : t.drawn = s.drawn
  stored : t.stored = s.stored

theorem Accounted.same (hs : Accounted s) (h : SameBooks s t) (htasks : t.tasks = s.tasks) : Accounted t := by
  obtain ⟨huploads, hcounters, hroom, hindex, hfresh, hdrawn, hdistinct⟩ := hs
  refine ⟨?_, ?_, ?_, ?_, ?_, ?_, ?_⟩
  · rwa [htasks]
  · simpa only [Store.counters, State.kept, State.storedIn, htasks, h.count, h.bytes, h.stored] using hcounters
  · simpa only [h.count, h.bytes] using hroom
  · simpa only [State.storedIn, htasks, h.index, h.stored] using hindex
  · simpa only [htasks, h.drawn, h.stored] using hfresh
  · simpa only [h.drawn, h.stored] using hdrawn
  · rwa [htasks]

/-- A task goes on with what it holds and what it has indexed. -/
theorem Accounted.keep (hs : Accounted s) {i : Nat} {old : Option (Stage Session)} (hold : s.tasks.get i = old)
    (next : Option (Stage Session)) (h : SameBooks s t) (htasks : t.tasks = s.tasks.put i next)
    (huploads : ∀ stage, next = some stage → stage.OfUpload)
    (hheld : ∀ session, holding (Stage.held session) next = holding (Stage.held session) old)
    (hindexed : ∀ session id, (∃ stage, next = some stage ∧ stage.Indexed session id) ↔
      ∃ stage, old = some stage ∧ stage.Indexed session id)
    (hid : ∀ id, next.bind Stage.assetId = some id → old.bind Stage.assetId = some id) : Accounted t := by
  subst hold
  refine hs.move next [] ⟨htasks, h.stored, huploads, fun session => ?_, fun session => ?_, fun session id => ?_,
    fun id hnext => ?_, ?_,
    by simp⟩
  · simp only [Store.counters, State.kept, State.storedIn, h.count, h.bytes, h.stored, hheld]
  · simpa only [h.count, h.bytes] using hs.room session
  · rw [h.index, hindexed]
    have hmem : (∃ stage, s.tasks.get i = some stage ∧ stage.Indexed session id) → id ∈ s.index session :=
      fun ⟨stage, hstage, hstep⟩ => (hs.index session id).2 (.inl ⟨i, stage, hstage, hstep⟩)
    by_cases hhas : ∃ stage, s.tasks.get i = some stage ∧ stage.Indexed session id
    · exact ⟨fun _ => .inr (.inl hhas), fun _ => hmem hhas⟩
    · simp [hhas]
  · obtain ⟨stage, hstage, hassetId⟩ := Option.bind_eq_some_iff.1 (hid id hnext)
    refine ⟨rfl, ?_, .inl (hid id hnext)⟩
    rw [h.drawn]
    exact (hs.fresh i stage id hstage hassetId).1
  · rw [h.drawn]
    exact List.Subset.refl _

theorem counters_incrby (s : Store Session) (session other : Session) (count bytes : ℤ) :
    (s.incrby session count bytes).counters other =
      s.counters other + if session = other then (count, bytes) else 0 := by
  show (Function.update s.count session (s.count session + count) other,
    Function.update s.bytes session (s.bytes session + bytes) other) = (s.count other, s.bytes other) + _
  by_cases h : session = other
  · subst h
    rw [if_pos rfl, Function.update_self, Function.update_self]
    rfl
  · rw [if_neg h, Function.update_of_ne (Ne.symm h), Function.update_of_ne (Ne.symm h), add_zero]

/-- The script takes the whole cost of an image and stays within the limits, or leaves the store as it was. -/
theorem reserve_cases (s : Store Session) (u : Upload Session) :
    s.reserve u.session u.size = (s, false) ∨
      (s.reserve u.session u.size).2 = true ∧ (s.reserve u.session u.size).1 = s.incrby u.session 1 u.size ∧
        (s.incrby u.session 1 u.size).count u.session ≤ maxSessionAssets ∧
        (s.incrby u.session 1 u.size).bytes u.session ≤ maxSessionAssetBytes := by
  unfold Store.reserve
  dsimp only
  split
  · left
    have hback : (s.incrby u.session 1 u.size).incrby u.session (-1) (-u.size) = s := by
      simp [Store.incrby]
    rw [hback]
  · rename_i hroom
    rw [not_or, not_lt, not_lt] at hroom
    exact .inr ⟨rfl, rfl, hroom⟩

theorem resume_reserve (hs : Accounted s) {i : Nat} {u : Upload Session} {id : AssetId}
    (hget : s.tasks.get i = some (.reserve u)) (h : resume host s i id (.reserve u) = some t) : Accounted t := by
  simp only [resume] at h
  rcases reserve_cases s.toStore u with hrefused | ⟨htrue, hstore, hcount, hbytes⟩
  · rw [hrefused] at h
    cases h
    refine hs.keep hget none ⟨rfl, rfl, rfl, rfl, rfl⟩ rfl (by simp) (fun _ => rfl) (fun _ _ => ?_) (by simp)
    simp [Stage.Indexed]
  · generalize hscript : s.toStore.reserve u.session u.size = script at h htrue hstore
    obtain ⟨store, taken⟩ := script
    cases htrue
    cases hstore
    dsimp only at h
    split at h
    · cases h
    · rename_i hid
      cases h
      refine hs.move (some (.sadd u id)) [] (i := i) ⟨rfl, rfl, ?_, fun session => ?_, fun session => ?_,
        fun session id' => ?_, fun id' hid' => ?_, List.subset_cons_self .., by simp⟩
      · rintro stage ⟨⟩
        trivial
      · show (s.toStore.incrby u.session 1 u.size).counters session + _ = _
        rw [counters_incrby, hget]
        simp only [holding_some, Stage.held, Upload.cost, zero_add, add_assoc]
        rfl
      · show (s.toStore.incrby u.session 1 u.size).count session ≤ _ ∧
          (s.toStore.incrby u.session 1 u.size).bytes session ≤ _
        by_cases hsession : session = u.session
        · subst hsession
          exact ⟨hcount, hbytes⟩
        · rw [Store.incrby]
          dsimp only
          rw [Function.update_of_ne hsession, Function.update_of_ne hsession]
          exact hs.room session
      · rw [hget]
        simp [Stage.Indexed]
      · cases hid'
        exact ⟨rfl, List.mem_cons_self, .inr hid⟩

theorem resume_sadd (hs : Accounted s) {i : Nat} {u : Upload Session} {id id' : AssetId}
    (hget : s.tasks.get i = some (.sadd u id)) (h : resume host s i id' (.sadd u id) = some t) : Accounted t := by
  cases h
  refine hs.move (some (.putAsset u id)) [] (i := i) ⟨rfl, rfl, ?_, fun session => ?_, hs.room, fun session other => ?_,
    fun other hother => ?_, List.Subset.refl _, by simp⟩
  · rintro stage ⟨⟩
    trivial
  · rw [hget]
    rfl
  · show other ∈ Function.update s.index u.session ((s.index u.session).insert id) session ↔ _
    rw [hget]
    simp only [Option.some.injEq, exists_eq_left', Stage.Indexed, not_false_eq_true, and_true, List.not_mem_nil,
      false_and, exists_false, or_false]
    by_cases hsession : session = u.session
    · subst hsession
      rw [Function.update_self, List.mem_insert_iff]
      tauto
    · rw [Function.update_of_ne hsession]
      tauto
  · cases hother
    exact ⟨rfl, (hs.fresh i _ id hget rfl).1, .inl (by rw [hget]; rfl)⟩

theorem resume_put (hs : Accounted s) {i : Nat} {u : Upload Session} {id id' : AssetId} {stage : Stage Session}
    (hstage : stage = .putAsset u id ∨ stage = .putType u id) (hget : s.tasks.get i = some stage)
    (h : resume host s i id' stage = some t) : Accounted t := by
  rcases hstage with rfl | rfl
  · cases h
    refine hs.keep hget (some (.putType u id)) ⟨rfl, rfl, rfl, rfl, rfl⟩ rfl ?_ (fun _ => rfl) (fun _ _ => ?_)
      fun _ h => h
    · rintro stage ⟨⟩
      trivial
    · simp [Stage.Indexed]
  · cases h
    refine hs.keep hget (some (.putSession u id)) ⟨rfl, rfl, rfl, rfl, rfl⟩ rfl ?_ (fun _ => rfl) (fun _ _ => ?_)
      fun _ h => h
    · rintro stage ⟨⟩
      trivial
    · simp [Stage.Indexed]

/-- What an upload held it has once it is stored. -/
theorem resume_putSession (hs : Accounted s) {i : Nat} {u : Upload Session} {id id' : AssetId}
    (hget : s.tasks.get i = some (.putSession u id)) (h : resume host s i id' (.putSession u id) = some t) :
    Accounted t := by
  cases h
  refine hs.move none [(id, u)] (i := i) ⟨rfl, rfl, by simp, fun session => ?_, hs.room, fun session other => ?_,
    by simp, List.Subset.refl _, ?_⟩
  · rw [hget]
    simp only [holding_some, holding_none, Stage.held, State.kept, State.storedIn, Stage.stores, zero_add,
      List.singleton_append, List.filter_cons]
    by_cases hsession : u.session = session
    · simp only [hsession, if_true, decide_true, List.map_cons, List.sum_cons]
      rfl
    · simp only [hsession, if_false, decide_false, zero_add, Bool.false_eq_true]
      rfl
  · rw [hget]
    have hindexed : u.session = session ∧ id = other → other ∈ s.index session :=
      fun heq => (hs.index session other).2 (.inl ⟨i, _, hget, heq⟩)
    simp only [Option.some.injEq, exists_eq_left', Stage.Indexed, reduceCtorEq, false_and, exists_false, false_or,
      List.mem_singleton, Prod.mk.injEq]
    constructor
    · intro hother
      by_cases heq : u.session = session ∧ id = other
      · exact .inr ⟨u, ⟨heq.2.symm, rfl⟩, heq.1⟩
      · exact .inl ⟨hother, heq⟩
    · rintro (⟨hother, -⟩ | ⟨v, ⟨rfl, rfl⟩, hsession⟩)
      · exact hother
      · exact hindexed ⟨hsession, rfl⟩
  · intro e he
    rw [List.mem_singleton.1 he, hget]
    rfl

theorem fail_accounted (hs : Accounted s) {i : Nat} {u : Upload Session} {id : AssetId} {stage : Stage Session}
    (hstage : stage = .putAsset u id ∨ stage = .putType u id ∨ stage = .putSession u id)
    (hget : s.tasks.get i = some stage) (hsame : SameBooks s t) (htasks : t.tasks = s.tasks.put i stage.onFailure) :
    Accounted t := by
  have hundo : stage.onFailure = some (.undo u id allUndos) := by rcases hstage with rfl | rfl | rfl <;> rfl
  have hcost : (allUndos.map (Undo.amount u)).sum = u.cost := by
    simp [allUndos, Undo.amount, Upload.cost]
  rw [hundo] at htasks
  refine hs.keep hget (some (.undo u id allUndos)) hsame htasks ?_ (fun session => ?_) (fun session other => ?_)
    fun other hother => ?_
  · rintro stage ⟨⟩
    show allUndos.Nodup
    decide
  · have hheld : stage.held session = if u.session = session then u.cost else 0 := by
      rcases hstage with rfl | rfl | rfl <;> rfl
    rw [holding_some, holding_some, hheld, Stage.held, hcost]
  · have hindexed : stage.Indexed session other ↔ u.session = session ∧ id = other := by
      rcases hstage with rfl | rfl | rfl <;> exact Iff.rfl
    simp only [Option.some.injEq, exists_eq_left', hindexed]
    simp [Stage.Indexed, allUndos]
  · cases hother
    rcases hstage with rfl | rfl | rfl <;> rfl

/-! ### Undos -/

theorem held_remaining (u : Upload Session) (id : AssetId) (left : List Undo) (session : Session) :
    holding (Stage.held session) (remaining u id left) =
      if u.session = session then (left.map (Undo.amount u)).sum else 0 := by
  unfold remaining
  split
  · rename_i hleft
    simp [hleft]
  · rfl

omit [DecidableEq Session] in
theorem indexed_remaining (u : Upload Session) (id : AssetId) (left : List Undo) (session : Session) (other : AssetId) :
    (∃ stage, remaining u id left = some stage ∧ stage.Indexed session other) ↔
      u.session = session ∧ id = other ∧ .index ∈ left := by
  unfold remaining
  split
  · rename_i hleft
    simp [hleft]
  · simp [Stage.Indexed]

omit [DecidableEq Session] in
theorem assetId_remaining {u : Upload Session} {id other : AssetId} {left : List Undo}
    (h : (remaining u id left).bind Stage.assetId = some other) : id = other := by
  unfold remaining at h
  split at h
  · cases h
  · exact Option.some.inj h

variable (host) in
/-- Each command gives its amount back, and one of them takes the image out of the index. -/
theorem counters_takeBack (s : Store Session) (u : Upload Session) (id : AssetId) (x : Undo) (session : Session) :
    (s.takeBack host u id x).counters session + (if u.session = session then x.amount u else 0) =
      s.counters session := by
  cases x with
  | asset | type | session | index =>
    show s.counters session + (if u.session = session then 0 else 0) = _
    simp
  | count | bytes =>
    rw [Store.takeBack, counters_incrby, add_assoc]
    by_cases hsession : u.session = session <;> simp [hsession, Undo.amount]

theorem index_takeBack (s : Store Session) (u : Upload Session) (id other : AssetId) (x : Undo) (session : Session) :
    other ∈ (s.takeBack host u id x).index session ↔
      other ∈ s.index session ∧ ¬(x = .index ∧ u.session = session ∧ id = other) := by
  cases x with
  | index =>
    show other ∈ Function.update s.index u.session ((s.index u.session).filter (· ≠ id)) session ↔ _
    by_cases hsession : session = u.session
    · subst hsession
      rw [Function.update_self, List.mem_filter, decide_eq_true_iff]
      exact and_congr_right fun _ =>
        ⟨fun hne heq => hne heq.2.2.symm, fun hnot heq => hnot ⟨rfl, rfl, heq.symm⟩⟩
    · rw [Function.update_of_ne hsession]
      simp [Ne.symm hsession]
  | _ => simp [Store.takeBack, Store.delete, Store.incrby]

variable (host) in
theorem count_takeBack_le (s : Store Session) (u : Upload Session) (id : AssetId) (x : Undo) (session : Session) :
    (s.takeBack host u id x).count session ≤ s.count session ∧
      (s.takeBack host u id x).bytes session ≤ s.bytes session := by
  have hcounters := counters_takeBack host s u id x session
  have hamount : 0 ≤ if u.session = session then x.amount u else (0 : ℤ × ℤ) := by
    split
    · cases x <;> simp [Undo.amount, Prod.le_def]
    · exact le_refl 0
  have hle := le_add_of_nonneg_right (a := (s.takeBack host u id x).counters session) hamount
  rw [hcounters] at hle
  exact Prod.le_def.1 hle

theorem undo_accounted (hs : Accounted s) {i : Nat} {u : Upload Session} {id : AssetId} {left : List Undo} {x : Undo}
    (hget : s.tasks.get i = some (.undo u id left)) (hx : x ∈ left)
    (hstore : t.toStore = s.toStore.takeBack host u id x)
    (htasks : t.tasks = s.tasks.put i (remaining u id (left.erase x))) (hdrawn : t.drawn = s.drawn)
    (hstored : t.stored = s.stored) : Accounted t := by
  have hnodup : left.Nodup := hs.uploads i _ hget
  refine hs.move (remaining u id (left.erase x)) [] (i := i) ⟨htasks, hstored, fun stage hstage => ?_,
    fun session => ?_, fun session => ?_, fun session other => ?_, fun other hother => ?_, ?_, by simp⟩
  · unfold remaining at hstage
    split at hstage
    · cases hstage
    · cases hstage
      exact hnodup.erase x
  · have hsum := List.sum_map_erase (Undo.amount u) hx
    have hcounters := counters_takeBack host s.toStore u id x session
    have hkept : t.kept session = s.kept session := by simp only [State.kept, State.storedIn, hstored]
    rw [hget, held_remaining, holding_some, Stage.held, hstore, hkept, ← hcounters]
    by_cases hsession : u.session = session
    · simp only [hsession, if_true] at hsum ⊢
      rw [← hsum]
      simp only [add_assoc]
    · simp only [hsession, if_false, add_zero]
  · obtain ⟨hcount, hbytes⟩ := count_takeBack_le host s.toStore u id x session
    rw [hstore]
    exact ⟨hcount.trans (hs.room session).1, hbytes.trans (hs.room session).2⟩
  · rw [hstore, index_takeBack, indexed_remaining, hget]
    have hindexed : u.session = session → id = other → .index ∈ left → other ∈ s.index session :=
      fun h₁ h₂ h₃ => (hs.index session other).2 (.inl ⟨i, _, hget, h₁, h₂, h₃⟩)
    simp only [Option.some.injEq, exists_eq_left', Stage.Indexed, hnodup.mem_erase_iff, List.not_mem_nil, false_and,
      exists_false, or_false]
    by_cases hindex : x = .index
    · subst hindex
      simp only [hx, ne_eq, not_true_eq_false, and_false, or_false, true_and, and_true]
    · have hne : Undo.index ≠ x := fun h => hindex h.symm
      simp only [hindex, false_and, not_false_eq_true, and_true, hne, ne_eq, true_and]
      tauto
  · refine ⟨rfl, ?_, .inl ?_⟩
    · rw [hdrawn, ← assetId_remaining hother]
      exact (hs.fresh i _ id hget rfl).1
    · rw [hget, ← assetId_remaining hother]
      rfl
  · rw [hdrawn]
    exact List.Subset.refl _

/-! ### Every step -/

theorem step_accounted {e : Event Session} (hs : Accounted s) (hok : OnlyUploads s e) (h : step host s e = some t) :
    Accounted t := by
  cases e with
  | upload i user session file =>
    unfold step at h
    dsimp only at h
    split at h
    · cases h
    · rename_i hfree
      split at h
      · cases h
        exact hs
      · rename_i u _
        cases h
        rw [Option.not_isSome_iff_eq_none] at hfree
        refine hs.keep hfree (some (.reserve u)) ⟨rfl, rfl, rfl, rfl, rfl⟩ rfl ?_ (fun _ => rfl) (fun _ _ => ?_) ?_
        · rintro stage ⟨⟩
          trivial
        · simp [Stage.Indexed]
        · simp [Stage.assetId]
  | serve i user session id => exact hok.elim
  | resume i id =>
    obtain ⟨stage, hget, hresume⟩ := Option.bind_eq_some_iff.1 h
    have hupload := hs.uploads i stage hget
    cases stage with
    | reserve u => exact resume_reserve hs hget hresume
    | sadd u id' => exact resume_sadd hs hget hresume
    | putAsset u id' => exact resume_put hs (.inl rfl) hget hresume
    | putType u id' => exact resume_put hs (.inr rfl) hget hresume
    | putSession u id' => exact resume_putSession hs hget hresume
    | undo u id' left => cases hresume
    | size session id' | owner session id' | claim session id' | bind session id' => exact hupload.elim
  | fail i made =>
    obtain ⟨stage, hget, hputs⟩ : ∃ stage, s.tasks.get i = some stage ∧ stage.puts = true :=
      (Option.any_eq_true _ _).1 hok
    obtain ⟨u, id, hstage⟩ := puts_cases hputs
    have hstep : t = { s with
        toStore := if made then (stage.write host s.toStore).1 else s.toStore
        tasks := s.tasks.put i stage.onFailure } := by
      unfold step at h
      simp only [hget] at h
      rcases hstage with rfl | rfl | rfl <;> exact (Option.some.inj h).symm
    refine fail_accounted hs hstage hget ?_ (by rw [hstep])
    rw [hstep]
    cases made with
    | false => exact ⟨rfl, rfl, rfl, rfl, rfl⟩
    | true => rcases hstage with rfl | rfl | rfl <;> exact ⟨rfl, rfl, rfl, rfl, rfl⟩
  | undo i x =>
    unfold step at h
    dsimp only at h
    split at h
    · rename_i u id left hget
      split at h
      · rename_i hx
        cases h
        exact undo_accounted hs hget hx rfl rfl rfl rfl
      · cases h
    · cases h
  | undoFails i x => exact hok.elim
  | edit session snapshot =>
    cases h
    exact hs.same ⟨rfl, rfl, rfl, rfl, rfl⟩ rfl
  | change sessions enrolled writable =>
    cases h
    exact hs.same ⟨rfl, rfl, rfl, rfl, rfl⟩ rfl

theorem accounted_of_untouched (h : Untouched s) : Accounted s := by
  refine ⟨?_, fun session => ?_, fun session => ?_, fun session id => ?_, ?_, ?_, ?_⟩
  · rw [h.tasks]
    simp
  · rw [h.counters, h.tasks, State.kept, State.storedIn, h.stored]
    rfl
  · have hzero := h.counters session
    rw [Store.counters, Prod.mk_eq_zero] at hzero
    rw [hzero.1, hzero.2]
    decide
  · rw [h.index, h.tasks, State.storedIn, h.stored]
    simp
  · rw [h.tasks]
    simp
  · rw [h.stored]
    simp
  · rw [h.tasks]
    exact exclusive_empty

/-! ## The quota -/

theorem kept_eq (s : State Session) (session : Session) : s.kept session =
    (((s.storedIn session).length : ℤ), ((((s.storedIn session).map (·.2.size)).sum : ℕ) : ℤ)) := by
  unfold State.kept
  induction s.storedIn session with
  | nil => rfl
  | cons e l ih =>
    rw [List.map_cons, List.sum_cons, ih, List.map_cons, List.sum_cons, List.length_cons, Upload.cost, Prod.mk_add_mk]
    push_cast
    rw [add_comm 1]

theorem held_nonneg (session : Session) (stage : Stage Session) : 0 ≤ stage.held session := by
  have hcost : ∀ u : Upload Session, 0 ≤ if u.session = session then u.cost else (0 : ℤ × ℤ) := by
    intro u
    split
    · simp [Upload.cost, Prod.le_def]
    · exact le_refl 0
  cases stage with
  | sadd u id | putAsset u id | putType u id | putSession u id => exact hcost u
  | undo u id left =>
    show 0 ≤ if u.session = session then (left.map (Undo.amount u)).sum else 0
    split
    · refine List.sum_nonneg fun m hm => ?_
      obtain ⟨x, -, rfl⟩ := List.mem_map.1 hm
      cases x <;> simp [Undo.amount, Prod.le_def]
    · exact le_refl 0
  | _ => exact le_refl 0

theorem Accounted.withinQuota (h : Accounted s) (session : Session) : WithinQuota s session := by
  have hcounters := h.counters session
  have hheld := Prod.le_def.1 (total_nonneg (held_nonneg session) s.tasks)
  rw [kept_eq, Store.counters, Prod.ext_iff] at hcounters
  obtain ⟨hcount, hbytes⟩ := hcounters
  obtain ⟨hfew, hsmall⟩ := h.room session
  simp only [Prod.fst_add, Prod.snd_add] at hcount hbytes
  simp only [Prod.fst_zero, Prod.snd_zero] at hheld
  exact ⟨by omega, by omega, hcount, hbytes, h.index session⟩

end Books

/-! ## Every run -/

section Runs

variable {Session : Type} [DecidableEq Session] {host : Host Session} {s t u : State Session}
  {es : List (Event Session)}

/-- In every run of uploads that may fail at their storage writes: the limits hold, the counters and the index come to
what the uploads in flight hold and what is stored, an upload that is refused leaves the store as it was, and one that
has been taken back leaves nothing in the index and holds nothing any more. -/
theorem quota_holds (hs : Untouched s) (hok : Meets (step host) OnlyUploads s es)
    (hrun : run (step host) s es = some t) :
    (∀ session, WithinQuota t session) ∧
    (∀ i id upload u, t.tasks.get i = some (.reserve upload) → step host t (.resume i id) = some u →
      u.tasks.get i = none → u.toStore = t.toStore ∧ ∀ session, WithinQuota u session) ∧
    ∀ i x upload id left u, t.tasks.get i = some (.undo upload id left) → step host t (.undo i x) = some u →
      u.tasks.get i = none → ∀ session, id ∉ u.index session ∧ WithinQuota u session := by
  have ht : Accounted t := run_inv (fun _ _ _ hs hok h => step_accounted hs hok h) (accounted_of_untouched hs) hok hrun
  refine ⟨ht.withinQuota, fun i id upload u hget hstep hnone => ?_,
    fun i x upload id left u hget hstep hnone session => ?_⟩
  · refine ⟨?_, (step_accounted (e := .resume i id) ht trivial hstep).withinQuota⟩
    unfold step at hstep
    simp only [hget, Option.bind_some, resume] at hstep
    rcases reserve_cases t.toStore upload with hrefused | ⟨htrue, -⟩
    · rw [hrefused] at hstep
      cases hstep
      rfl
    · generalize t.toStore.reserve upload.session upload.size = script at hstep htrue
      obtain ⟨store, taken⟩ := script
      cases htrue
      dsimp only at hstep
      split at hstep
      · cases hstep
      · cases hstep
        rw [get_put_self] at hnone
        cases hnone
  · have hu := step_accounted (e := .undo i x) ht trivial hstep
    refine ⟨fun hid => ?_, hu.withinQuota session⟩
    have hfresh := (ht.fresh i _ id hget rfl).2
    unfold step at hstep
    simp only [hget] at hstep
    split at hstep
    · cases hstep
      rcases (hu.index session id).1 hid with ⟨j, stage, hstage, hindexed⟩ | ⟨other, hother⟩
      · rcases get_put_cases hstage with ⟨rfl, hnext⟩ | ⟨hj, hstage⟩
        · rw [get_put_self, hnext] at hnone
          cases hnone
        · exact ht.distinct i _ id hget rfl j stage hj hstage (assetId_of_indexed hindexed)
      · exact hfresh other (mem_storedIn.1 hother).1
    · cases hstep

end Runs

namespace Example

/-- An upload to the evening class whose first write to the object store fails, up to where its count is given back. -/
def failing : List (Event Bool) :=
  [.upload 0 yusuf true (some png), .resume 0 asset, .resume 0 "", .fail 0 false, .undo 0 .count]

/-- An upload that is stored, beside the one that fails. -/
def both : List (Event Bool) :=
  failing ++ [.upload 1 yusuf true (some png), .resume 1 "b"] ++ List.replicate 4 (.resume 1 "") ++
    [.undo 0 .index, .undo 0 .bytes, .undo 0 .asset, .undo 0 .type, .undo 0 .session]

theorem start_untouched : Untouched (start live live) := ⟨rfl, rfl, fun _ => rfl, fun _ => rfl⟩

end Example

open Example in
/-- While an upload is taken back, the counters are not those of any uploads. -/
theorem half_taken_back : Untouched (start live live) ∧ Meets (step host) OnlyUploads (start live live) failing ∧
    ∃ t, run (step host) (start live live) failing = some t ∧ ∀ inFlight : List (Upload Bool),
      ¬(t.count true = (inFlight.length + (t.storedIn true).length : ℕ) ∧
        t.bytes true = ((inFlight.map (·.size)).sum + ((t.storedIn true).map (·.2.size)).sum : ℕ)) := by
  have hrun : (run (step host) (start live live) failing).map (fun t => (t.count true, t.bytes true, t.stored)) =
      some (0, 8, []) := by
    decide
  obtain ⟨t, ht, hbooks⟩ := Option.map_eq_some_iff.1 hrun
  rw [Prod.mk.injEq, Prod.mk.injEq] at hbooks
  obtain ⟨hcount, hbytes, hstored⟩ := hbooks
  refine ⟨start_untouched, by decide, t, ht, fun inFlight hclaim => ?_⟩
  rw [hcount, hbytes, State.storedIn, hstored] at hclaim
  obtain ⟨hlength, hsize⟩ := hclaim
  cases inFlight with
  | nil => simp at hsize
  | cons u l =>
    rw [List.length_cons] at hlength
    omega

open Example in
/-- One of two uploads fails, and only the other one counts. -/
theorem one_of_two : ∃ t, run (step host) (start live live) both = some t ∧
    t.stored = [("b", ⟨true, 8, png.buffer, "image/png"⟩)] ∧
    WithinQuota t true := by
  have hrun : (run (step host) (start live live) both).map (·.stored) =
      some [("b", ⟨true, 8, png.buffer, "image/png"⟩)] := by
    decide
  obtain ⟨t, ht, hstored⟩ := Option.map_eq_some_iff.1 hrun
  exact ⟨t, ht, hstored, (quota_holds start_untouched (by decide) ht).1 true⟩

end Livetich.Board.Assets
