/-
The cleanup of the boards over many runs. Where Redis and the query do not fail, it comes to every expired session, and
remembers the sessions whose files it could not remove. The object store may fail at any time.
-/
import Livetich.Board.Retention

namespace Livetich.Board.Assets

open TransSys Livetich.Lib Livetich.Lib.Calls

/-! ## Statements -/

/-- No request to Redis fails. -/
structure RemoveFaults.Steady (faults : RemoveFaults) : Prop where
  members : faults.members = false
  scard : faults.scard = false
  del : faults.del = false
  srem : ∀ id, faults.srem id = false

/-- No request to Redis or to the database fails. -/
structure Faults.Steady {Session : Type} (faults : Faults Session) : Prop where
  retries : faults.retries = false
  again : ∀ session, (faults.again session).Steady
  srem : ∀ session, faults.srem session = false
  cursor : faults.cursor = false
  window : faults.window = false
  rewind : faults.rewind = false
  first : faults.first = false
  remove : ∀ session, (faults.remove session).Steady
  sadd : ∀ session, faults.sadd session = false
  save : faults.save = false

section Statements

variable {Session : Type} [LinearOrder Session]

/-- The cleanups do not fail, and find these sessions expired. -/
def Steadily (expired : List Session) (s : State Session) : Action Session → Prop
  | .use _ => True
  | .sweep now faults => faults.Steady ∧ s.expired now = expired

def Action.isSweep : Action Session → Bool
  | .use _ => false
  | .sweep .. => true

/-- The runs of the cleanup. -/
def sweeps (es : List (Action Session)) : Nat := es.countP Action.isSweep

/-- What the last removal of a session returned. -/
def Store.lastRemoval (s : Store Session) (session : Session) : Option Bool :=
  (s.removals.find? (·.1 == session)).map (·.2)

/-- The sessions passed to `removeSessionAssets`. -/
def Store.passed (s : Store Session) : List Session := s.removals.map (·.1)

/-- The sessions whose last removal failed, and those among `retries` that no removal was made of, are in the retry
set. -/
def Store.Remembers (retries : List Session) (s : Store Session) : Prop :=
  ∀ session, s.lastRemoval session = some false ∨ s.lastRemoval session = none ∧ session ∈ retries →
    session ∈ s.retry.keys

end Statements

/-! ## One removal -/

section Removal

variable {Session : Type} {host : Host Session}

/-- What a removal leaves as it was. -/
structure Store.SameSweep (s₀ s : Store Session) : Prop where
  retry : s.retry = s₀.retry
  cursor : s.cursor = s₀.cursor
  removals : s.removals = s₀.removals
  rows : s.sessions = s₀.sessions

variable [DecidableEq Session] {s₀ : Store Session} {faults : RemoveFaults}

theorem removeAssets_ensures (session : Session) (ids : List AssetId) :
    Ensures s₀.SameSweep (removeAssets host faults session ids) fun _ => s₀.SameSweep :=
  removeAssets_keeps (fun _ _ _ _ _ h => ⟨h.retry, h.cursor, h.removals, h.rows⟩)
    fun _ _ h => ⟨h.retry, h.cursor, h.removals, h.rows⟩

/-- Whatever the object store does, a removal returns. -/
theorem removeSessionAssets_ensures (h : faults.Steady) (session : Session) :
    Ensures s₀.SameSweep (removeSessionAssets host faults session) fun _ => s₀.SameSweep := by
  unfold removeSessionAssets
  refine (Ensures.awaits h.members _).bind fun _ => ?_
  refine (Ensures.reads (Q := fun _ => s₀.SameSweep) fun _ hs => hs).bind fun ids => ?_
  refine (Ensures.reads (Q := fun _ => s₀.SameSweep) fun _ hs => hs).bind fun read => ?_
  cases read with
  | none => exact Ensures.pure fun _ hs => hs
  | some named =>
    refine (removeAssets_ensures session _).bind fun complete => ?_
    split
    · exact Ensures.pure fun _ hs => hs
    refine (Ensures.awaits h.scard _).bind fun _ => ?_
    refine (Ensures.reads (Q := fun _ => s₀.SameSweep) fun _ hs => hs).bind fun left => ?_
    split
    · exact Ensures.pure fun _ hs => hs
    refine (Ensures.writes (J := s₀.SameSweep) fun s hs => ?_).bind fun _ => (Ensures.awaits h.del _).bind fun _ =>
      (Ensures.writes (J := s₀.SameSweep) fun s hs => ?_).bind fun _ => Ensures.pure fun _ hs => hs
    · exact ⟨hs.retry, hs.cursor, hs.removals, hs.rows⟩
    · exact ⟨hs.retry, hs.cursor, hs.removals, hs.rows⟩

/-- The call in either loop adds to what is noted, and changes nothing else that the loops go by. -/
theorem noted_ensures (h : faults.Steady) (s₀ : Store Session) (session : Session) :
    Ensures (· = s₀) (noted host faults session) fun removed s => s.retry = s₀.retry ∧ s.cursor = s₀.cursor ∧
      s.sessions = s₀.sessions ∧ s.removals = (session, removed) :: s₀.removals := by
  have hremoval : Ensures (· = s₀) (removeSessionAssets host faults session) fun _ => s₀.SameSweep := by
    refine (removeSessionAssets_ensures h session).of_imp (fun s hs => ?_) fun _ _ hs => hs
    subst hs
    exact ⟨rfl, rfl, rfl, rfl⟩
  unfold noted
  refine hremoval.bind fun removed => ?_
  refine (Ensures.writes fun s hs => ?_).bind fun _ => Ensures.pure fun _ hs => hs
  exact ⟨hs.retry, hs.cursor, hs.rows, congrArg _ hs.removals⟩

end Removal

/-! ## The loops -/

section Loops

variable {Session : Type} [LinearOrder Session] {host : Host Session} {faults : Faults Session}
  {s₀ s t : Store Session} {retries done : List Session} {cursor : Option Session} {session : Session}

theorem lastRemoval_cons {removed : Bool} (h : t.removals = (session, removed) :: s.removals) (other : Session) :
    t.lastRemoval other = if other = session then some removed else s.lastRemoval other := by
  unfold Store.lastRemoval
  rw [h, List.find?_cons]
  by_cases hother : other = session
  · subst hother
    simp
  · have hne : (session == other) = false := by simpa using fun heq => hother heq.symm
    rw [if_neg hother, hne]

omit [LinearOrder Session] in
theorem passed_cons {removed : Bool} (h : t.removals = (session, removed) :: s.removals) :
    t.passed = session :: s.passed := by
  unfold Store.passed
  rw [h, List.map_cons]

theorem mem_keys_insert {table : Table Session Unit} {other : Session} :
    other ∈ (table.insert session ()).keys ↔ other = session ∨ other ∈ table.keys := by
  unfold Table.keys Table.insert
  split
  · rename_i hmem
    exact ⟨.inr, fun h => h.elim (fun heq => heq ▸ hmem) id⟩
  · simp [or_comm]

theorem mem_keys_filter {table : Table Session Unit} {other : Session} :
    other ∈ (table.filter fun id _ => id != session).keys ↔ other ∈ table.keys ∧ other ≠ session := by
  unfold Table.keys Table.filter
  simp

/-- What a sweep has done on its way: it has come to these sessions, and remembers. -/
structure Sweeping (s₀ : Store Session) (retries : List Session) (cursor : Option Session) (done : List Session)
    (s : Store Session) : Prop where
  rows : s.sessions = s₀.sessions
  cursor : s.cursor = cursor
  passed : s₀.passed ++ done ⊆ s.passed
  remembers : s.Remembers retries

/-- A removal that fails has its session in the retry set, and all other sessions stay there. -/
theorem Store.Remembers.removal {removed : Bool} (h : s.Remembers retries)
    (hremovals : t.removals = (session, removed) :: s.removals)
    (hothers : ∀ other ∈ s.retry.keys, other ≠ session → other ∈ t.retry.keys)
    (hfailed : removed = false → session ∈ t.retry.keys) : t.Remembers retries := by
  intro other hother
  rw [lastRemoval_cons hremovals] at hother
  split at hother
  · rename_i heq
    subst heq
    rcases hother with hlast | ⟨hnone, -⟩
    · exact hfailed (Option.some.inj hlast)
    · cases hnone
  · rename_i hne
    exact hothers other (h other hother) hne

theorem Sweeping.removal {removed : Bool} (h : Sweeping s₀ retries cursor done s) (hcursor : t.cursor = s.cursor)
    (hrows : t.sessions = s.sessions) (hremovals : t.removals = (session, removed) :: s.removals)
    (hothers : ∀ other ∈ s.retry.keys, other ≠ session → other ∈ t.retry.keys)
    (hfailed : removed = false → session ∈ t.retry.keys) :
    Sweeping s₀ retries cursor (done ++ [session]) t := by
  refine ⟨hrows.trans h.rows, hcursor.trans h.cursor, ?_, h.remembers.removal hremovals hothers hfailed⟩
  rw [passed_cons hremovals, ← List.append_assoc]
  intro other hother
  rcases List.mem_append.1 hother with hother | hother
  · exact List.mem_cons_of_mem _ (h.passed hother)
  · rw [List.mem_singleton.1 hother]
    exact List.mem_cons_self

theorem retryDone_ensures (h : faults.srem session = false) (removed : Bool) (s₀ : Store Session) :
    Ensures (· = s₀) (retryDone faults session removed) fun _ s => s.cursor = s₀.cursor ∧ s.sessions = s₀.sessions ∧
      s.removals = s₀.removals ∧
      ∀ other, other ∈ s.retry.keys ↔ other ∈ s₀.retry.keys ∧ ¬(removed = true ∧ other = session) := by
  cases removed with
  | false =>
    refine Ensures.pure fun s hs => ?_
    subst hs
    simp
  | true =>
    refine (Ensures.awaits h _).bind fun _ => Ensures.writes fun s hs => ?_
    subst hs
    exact ⟨rfl, rfl, rfl, fun other => by simp [mem_keys_filter]⟩

theorem retryLater_ensures (h : faults.sadd session = false) (removed : Bool) (s₀ : Store Session) :
    Ensures (· = s₀) (retryLater faults session removed) fun _ s => s.cursor = s₀.cursor ∧ s.sessions = s₀.sessions ∧
      s.removals = s₀.removals ∧
      ∀ other, other ∈ s.retry.keys ↔ other ∈ s₀.retry.keys ∨ removed = false ∧ other = session := by
  cases removed with
  | true =>
    refine Ensures.pure fun s hs => ?_
    subst hs
    simp
  | false =>
    refine (Ensures.awaits h _).bind fun _ => Ensures.writes fun s hs => ?_
    subst hs
    exact ⟨rfl, rfl, rfl, fun other => by rw [mem_keys_insert, or_comm]; simp⟩

variable (host) in
/-- The loop over the retries, each of which is in the retry set until its turn. -/
theorem removeAgain_ensures (h : faults.Steady) : ∀ {taken done : List Session}, taken.Nodup →
    Ensures (fun s => Sweeping s₀ retries cursor done s ∧ taken ⊆ s.retry.keys) (removeAgain host faults taken)
      fun _ => Sweeping s₀ retries cursor (done ++ taken)
  | [], done, _ => by
    rw [List.append_nil]
    exact Ensures.pure fun _ hs => hs.1
  | session :: taken, done, hnodup => by
    obtain ⟨hfirst, hnodup⟩ := List.nodup_cons.1 hnodup
    rintro s ⟨hs, htaken⟩
    obtain ⟨s₁, removed, hnoted, hretry, hcursor, hrows, hremovals⟩ := noted_ensures (h.again session) s session s rfl
    obtain ⟨s₂, _, hdone, hcursor', hrows', hremovals', hkeys⟩ := retryDone_ensures (h.srem session) removed s₁ s₁ rfl
    rw [hretry] at hkeys
    have hsweeping : Sweeping s₀ retries cursor (done ++ [session]) s₂ := by
      refine hs.removal (hcursor'.trans hcursor) (hrows'.trans hrows) (hremovals'.trans hremovals) ?_ ?_
      · exact fun other hother hne => (hkeys other).2 ⟨hother, fun heq => hne heq.2⟩
      · exact fun hfailed => (hkeys session).2 ⟨htaken List.mem_cons_self, fun htrue => by simp [hfailed] at htrue⟩
    have hleft : taken ⊆ s₂.retry.keys := by
      intro other hother
      refine (hkeys other).2 ⟨htaken (List.mem_cons_of_mem _ hother), fun heq => ?_⟩
      exact hfirst (heq.2 ▸ hother)
    obtain ⟨t, a, hrun, ht⟩ := removeAgain_ensures h hnodup s₂ ⟨hsweeping, hleft⟩
    refine ⟨t, a, ?_, by simpa using ht⟩
    rw [removeAgain, bind_of_ok hnoted, bind_of_ok hdone]
    exact hrun

variable (host) in
theorem removeWindow_ensures (h : faults.Steady) : ∀ (taken : List Session) {done : List Session},
    Ensures (Sweeping s₀ retries cursor done) (removeWindow host faults taken)
      fun _ => Sweeping s₀ retries cursor (done ++ taken)
  | [], done => by
    rw [List.append_nil]
    exact Ensures.pure fun _ hs => hs
  | session :: taken, done => by
    intro s hs
    obtain ⟨s₁, removed, hnoted, hretry, hcursor, hrows, hremovals⟩ := noted_ensures (h.remove session) s session s rfl
    obtain ⟨s₂, _, hlater, hcursor', hrows', hremovals', hkeys⟩ :=
      retryLater_ensures (h.sadd session) removed s₁ s₁ rfl
    rw [hretry] at hkeys
    have hsweeping : Sweeping s₀ retries cursor (done ++ [session]) s₂ := by
      refine hs.removal (hcursor'.trans hcursor) (hrows'.trans hrows) (hremovals'.trans hremovals) ?_ ?_
      · exact fun other hother _ => (hkeys other).2 (.inl hother)
      · exact fun hfailed => (hkeys session).2 (.inr ⟨hfailed, rfl⟩)
    obtain ⟨t, a, hrun, ht⟩ := removeWindow_ensures h _ s₂ hsweeping
    refine ⟨t, a, ?_, by simpa using ht⟩
    rw [removeWindow, bind_of_ok hnoted, bind_of_ok hlater]
    exact hrun

/-! ## One sweep -/

/-- The expired sessions are in ascending order. -/
theorem expired_sorted (s : Store Session) (now : Int) : (s.expired now).Pairwise (· < ·) := by
  have hnodup : (s.expired now).Nodup := by
    unfold Store.expired
    refine (List.mergeSort_perm _ _).nodup_iff.2 ?_
    exact s.sessions.nodup.sublist (List.filter_sublist.map _)
  have hsorted : (s.expired now).Pairwise (· ≤ ·) := by
    unfold Store.expired
    simpa using @List.pairwise_mergeSort Session (fun a b => decide (a ≤ b))
      (fun a b c hab hbc => by simpa using (of_decide_eq_true hab).trans (of_decide_eq_true hbc))
      (fun a b => by simpa using le_total a b) _
  exact (hsorted.and hnodup).imp fun hle => lt_of_le_of_ne hle.1 hle.2

theorem rewound_ensures (h : faults.Steady) (now : Int) {taken : List Session}
    (htaken : taken = page (s₀.expired now) cursor) :
    Ensures (Sweeping s₀ retries cursor done) (rewound faults now cursor taken)
      fun sessions s => sessions = window (s₀.expired now) cursor ∧
        ∃ c, Sweeping s₀ retries c done s ∧ (sessions = [] → c = none) := by
  rw [window_eq_page]
  unfold rewound
  split
  · rename_i hempty
    rw [htaken] at hempty
    rw [if_pos hempty.1]
    refine (Ensures.awaits h.rewind _).bind fun _ => ?_
    refine (Ensures.writes (J := Sweeping s₀ retries none done) fun s hs => ?_).bind fun _ => ?_
    · exact ⟨hs.rows, rfl, hs.passed, hs.remembers⟩
    refine (Ensures.awaits h.first _).bind fun _ => Ensures.reads fun s hs => ⟨?_, none, hs, fun _ => rfl⟩
    unfold Store.expired
    rw [hs.rows]
  · rename_i hempty
    refine Ensures.pure fun s hs => ⟨?_, cursor, hs, fun hnil => ?_⟩
    · rw [htaken]
      split
      · rename_i hnil
        have hcursor : cursor = none := by
          by_contra hne
          exact hempty ⟨htaken.trans hnil, hne⟩
        rw [hcursor]
      · rfl
    · by_contra hne
      exact hempty ⟨hnil, hne⟩

/-- What one run of the cleanup does. -/
structure Swept (expired retries : List Session) (s t : Store Session) : Prop where
  cursor : t.cursor = Cursor.next expired 100 s.cursor
  passed : s.passed ++ window expired s.cursor ⊆ t.passed
  remembers : t.Remembers retries

/-- The cursor is put on the last session of the window, and where there is none it is gone. -/
theorem save_ensures (h : faults.Steady) {sessions : List Session} (hcursor : sessions = [] → cursor = none) :
    Ensures (Sweeping s₀ retries cursor done) (save faults sessions.getLast?)
      fun _ => Sweeping s₀ retries sessions.getLast? done := by
  cases hlast : sessions.getLast? with
  | none =>
    rw [hcursor (List.getLast?_eq_none_iff.1 hlast)]
    exact Ensures.pure fun _ hs => hs
  | some last =>
    refine (Ensures.awaits h.save _).bind fun _ => Ensures.writes fun s hs => ?_
    exact ⟨hs.rows, rfl, hs.passed, hs.remembers⟩

theorem removeExpiredAssets_swept (h : faults.Steady) (now : Int) (hs₀ : s₀.Remembers retries) :
    Swept (s₀.expired now) retries s₀ (removeExpiredAssets host faults now s₀).1 := by
  have hnodup : (faults.scan.order s₀.retry.keys).Nodup := (faults.scan.perm _).nodup_iff.2 s₀.retry.nodup
  have htaken : (faults.scan.order s₀.retry.keys).take 100 ⊆ s₀.retry.keys :=
    List.Subset.trans (List.take_subset 100 _) (faults.scan.perm _).subset
  have hstart : Sweeping s₀ retries s₀.cursor [] s₀ := ⟨rfl, rfl, by simp, hs₀⟩
  -- The phases of a run, each from what the one before it has left.
  obtain ⟨s₁, _, hagain, hs₁⟩ :=
    removeAgain_ensures host h (hnodup.sublist (List.take_sublist 100 _)) s₀ ⟨hstart, htaken⟩
  have hpage : page (s₁.expired now) s₁.cursor = page (s₀.expired now) s₀.cursor := by
    unfold Store.expired
    rw [hs₁.rows, hs₁.cursor]
  obtain ⟨s₂, sessions, hrewound, hsessions, cursor, hs₂, hcursor⟩ :=
    rewound_ensures h now hpage s₁ hs₁
  obtain ⟨s₃, _, hwindow, hs₃⟩ := removeWindow_ensures host h sessions s₂ hs₂
  obtain ⟨t, _, hsave, ht⟩ := save_ensures h hcursor s₃ hs₃
  have hrun : removeExpiredAssets host faults now s₀ = (t, .ok ()) := by
    unfold removeExpiredAssets
    rw [bind_of_ok (awaits_ok h.retries _ s₀), reads_bind, bind_of_ok hagain, bind_of_ok (awaits_ok h.cursor _ s₁),
      reads_bind, bind_of_ok (awaits_ok h.window _ s₁), reads_bind, hs₁.cursor, bind_of_ok (hs₁.cursor ▸ hrewound),
      bind_of_ok hwindow]
    exact hsave
  rw [hrun]
  subst hsessions
  refine ⟨ht.cursor, List.Subset.trans ?_ ht.passed, ht.remembers⟩
  exact fun x hx => by
    rcases List.mem_append.1 hx with hx | hx
    · exact List.mem_append_left _ hx
    · exact List.mem_append_right _ (List.mem_append_right _ hx)

end Loops

/-! ## Every run -/

section Runs

variable {Session : Type} [LinearOrder Session] {host : Host Session} {retries expired : List Session}
  {s t : State Session}

/-- Neither uploads nor reads nor edits touch what the cleanup keeps for itself. -/
structure SameKeeping (s t : Store Session) : Prop where
  retry : t.retry = s.retry
  cursor : t.cursor = s.cursor
  removals : t.removals = s.removals

omit [LinearOrder Session] in
theorem sameKeeping_write [DecidableEq Session] (s : Store Session) (stage : Stage Session) :
    SameKeeping s (stage.write host s).1 := by
  cases stage <;> exact ⟨rfl, rfl, rfl⟩

omit [LinearOrder Session] in
theorem sameKeeping_takeBack [DecidableEq Session] (s : Store Session) (u : Upload Session) (id : AssetId)
    (undo : Undo) :
    SameKeeping s (s.takeBack host u id undo) := by
  cases undo <;> exact ⟨rfl, rfl, rfl⟩

omit [LinearOrder Session] in
theorem sameKeeping_reserve [DecidableEq Session] (s : Store Session) (session : Session) (size : Nat) :
    SameKeeping s (s.reserve session size).1 := by
  unfold Store.reserve
  dsimp only
  split <;> exact ⟨rfl, rfl, rfl⟩

theorem sameKeeping_resume {i : Nat} {id : AssetId} {stage : Stage Session} (h : resume host s i id stage = some t) :
    SameKeeping s.toStore t.toStore := by
  unfold resume at h
  split at h
  · rename_i u
    have hsame := sameKeeping_reserve s.toStore u.session u.size
    split at h
    · rename_i store hstore
      rw [hstore] at hsame
      cases h
      exact hsame
    · rename_i store hstore
      rw [hstore] at hsame
      split at h
      · cases h
      · cases h
        exact hsame
  · cases h
  · cases h
    exact ⟨rfl, rfl, rfl⟩
  · cases h
    exact ⟨rfl, rfl, rfl⟩
  · cases h
    exact sameKeeping_write s.toStore stage

theorem sameKeeping_step {e : Event Session} (h : step host s e = some t) : SameKeeping s.toStore t.toStore := by
  cases e with
  | upload i user session file =>
    unfold step at h
    dsimp only at h
    split at h
    · cases h
    · split at h <;> cases h <;> exact ⟨rfl, rfl, rfl⟩
  | serve i user session id =>
    unfold step at h
    dsimp only at h
    split at h
    · cases h
    · split at h <;> cases h <;> exact ⟨rfl, rfl, rfl⟩
  | resume i id =>
    obtain ⟨stage, -, hstage⟩ := Option.bind_eq_some_iff.1 h
    exact sameKeeping_resume hstage
  | fail i made =>
    unfold step at h
    dsimp only at h
    split at h
    · cases h
    · cases h
    · rename_i stage _ _
      cases h
      cases made
      · exact ⟨rfl, rfl, rfl⟩
      · exact sameKeeping_write s.toStore stage
  | undo i u =>
    unfold step at h
    dsimp only at h
    split at h
    · split at h
      · cases h
        exact sameKeeping_takeBack ..
      · cases h
    · cases h
  | undoFails i u =>
    unfold step at h
    dsimp only at h
    split at h
    · split at h <;> cases h
      exact ⟨rfl, rfl, rfl⟩
    · cases h
  | edit session snapshot =>
    cases h
    exact ⟨rfl, rfl, rfl⟩
  | change sessions enrolled writable =>
    cases h
    exact ⟨rfl, rfl, rfl⟩

/-- What a step does that is not a run of the cleanup, and what a run does. -/
theorem act_cases {a : Action Session} (h : act host s a = some t) (hs : s.Remembers retries)
    (hsteady : Steadily expired s a) :
    a.isSweep = false ∧ SameKeeping s.toStore t.toStore ∨
      a.isSweep = true ∧ Swept expired retries s.toStore t.toStore := by
  cases a with
  | use e => exact .inl ⟨rfl, sameKeeping_step h⟩
  | sweep now faults =>
    obtain ⟨hfaults, rfl⟩ := hsteady
    cases h
    exact .inr ⟨rfl, removeExpiredAssets_swept hfaults now hs⟩

theorem act_remembers {a : Action Session} (hs : s.Remembers retries) (hsteady : Steadily expired s a)
    (h : act host s a = some t) : t.Remembers retries := by
  rcases act_cases h hs hsteady with ⟨-, hsame⟩ | ⟨-, hswept⟩
  · unfold Store.Remembers Store.lastRemoval at hs ⊢
    rw [hsame.retry, hsame.removals]
    exact hs
  · exact hswept.remembers

/-- What a run of the system has passed: what it had passed before, and what its cleanups take. -/
theorem run_passes : ∀ {es : List (Action Session)} {s : State Session}, s.Remembers retries →
    Meets (act host) (Steadily expired) s es → run (act host) s es = some t →
    s.passed ++ Cursor.passes expired 100 (sweeps es) s.cursor ⊆ t.passed
  | [], _, _, _, hrun => by
    cases hrun
    rw [show Cursor.passes expired 100 (sweeps []) t.cursor = [] from rfl, List.append_nil]
    exact fun _ h => h
  | a :: es, s, hs, hsteady, hrun => by
    obtain ⟨s', hact, hrest⟩ := run_cons.1 hrun
    have hpassed := run_passes (act_remembers hs hsteady.1 hact) (hsteady.2 s' hact) hrest
    rcases act_cases hact hs hsteady.1 with ⟨huse, hsame⟩ | ⟨hsweep, hswept⟩
    · have hcount : sweeps (a :: es) = sweeps es := List.countP_cons_of_neg (by simp [huse])
      have hbefore : s'.passed = s.passed := by
        unfold Store.passed
        rw [hsame.removals]
      rw [hcount, ← hsame.cursor, ← hbefore]
      exact hpassed
    · have hcount : sweeps (a :: es) = sweeps es + 1 := List.countP_cons_of_pos hsweep
      rw [hcount, Cursor.passes, ← List.append_assoc, ← hswept.cursor]
      intro x hx
      rcases List.mem_append.1 hx with hx | hx
      · exact hpassed (List.mem_append_left _ (hswept.passed hx))
      · exact hpassed (List.mem_append_right _ hx)

/-- What a cleanup finds is in ascending order. -/
theorem steadily_sorted : ∀ {es : List (Action Session)} {s : State Session}, Meets (act host) (Steadily expired) s es →
    run (act host) s es = some t → 0 < sweeps es → expired.Pairwise (· < ·)
  | .use e :: es, s, hsteady, hrun, hsweeps => by
    obtain ⟨s', hact, hrest⟩ := run_cons.1 hrun
    exact steadily_sorted (hsteady.2 s' hact) hrest hsweeps
  | .sweep now faults :: es, s, hsteady, _, _ => by
    rw [← hsteady.1.2]
    exact expired_sorted s.toStore now

/-- Where Redis and the query do not fail: twice the expired sessions in hundreds, and three, runs of the cleanup pass
every one of them to `removeSessionAssets`; and at any time a session whose last removal failed is in the retry set, as
is each one that was in it from the start and that no removal was made of. -/
theorem cleanup_reaches {es : List (Action Session)} (hrun : run (act host) s es = some t)
    (hsteady : Meets (act host) (Steadily expired) s es) (hnew : s.removals = []) :
    (2 * expired.length / 100 + 3 ≤ sweeps es → ∀ session ∈ expired, ∃ removed, (session, removed) ∈ t.removals) ∧
    ∀ es₁ es₂ u, es = es₁ ++ es₂ → run (act host) s es₁ = some u → ∀ session,
      u.lastRemoval session = some false ∨ u.lastRemoval session = none ∧ session ∈ s.retry.keys →
      session ∈ u.retry.keys := by
  have hstart : s.Remembers s.retry.keys := by
    rintro session (hfailed | ⟨-, hretry⟩)
    · unfold Store.lastRemoval at hfailed
      rw [hnew] at hfailed
      cases hfailed
    · exact hretry
  constructor
  · intro hsweeps session hsession
    have hsorted : expired.Pairwise (· < ·) := steadily_sorted hsteady hrun (by omega)
    have hpass : session ∈ Cursor.passes expired 100 (sweeps es) s.cursor :=
      Cursor.mem_passes hsorted (by decide) (by omega) hsession
    have hmem := run_passes hstart hsteady hrun (List.mem_append_right _ hpass)
    obtain ⟨entry, hentry, rfl⟩ := List.mem_map.1 hmem
    exact ⟨entry.2, hentry⟩
  · intro es₁ es₂ u hes hrun₁
    rw [hes] at hsteady
    exact run_inv (fun s a t hs hsteady h => act_remembers hs hsteady h) hstart (meets_append hsteady hrun₁).1 hrun₁

end Runs

namespace Example

/-- The object store deletes nothing. -/
def stuck : RemoveFaults := { noFaults with delete := fun _ => true }

/-- Runs on which nothing can be removed. -/
def stalled : Faults Bool := { smooth with again := fun _ => stuck, remove := fun _ => stuck }

theorem stalled_steady : stalled.Steady :=
  ⟨rfl, fun _ => ⟨rfl, rfl, rfl, fun _ => rfl⟩, fun _ => rfl, rfl, rfl, rfl, rfl,
    fun _ => ⟨rfl, rfl, rfl, fun _ => rfl⟩, fun _ => rfl, rfl⟩

def idle : List (Action Bool) := List.replicate 3 (.sweep aYearOn stalled)

end Example

open Example in
/-- A class whose files cannot be removed is passed, and in the retry set afterwards. -/
theorem stuck_waits : ∃ t, run (act host) own idle = some t ∧ (∃ removed, (false, removed) ∈ t.removals) ∧
    false ∈ t.retry.keys := by
  have hsteady : Meets (act host) (Steadily [false]) own idle := by
    refine ⟨⟨stalled_steady, by decide +kernel⟩, fun s₁ h₁ => ?_⟩
    cases h₁
    refine ⟨⟨stalled_steady, by decide +kernel⟩, fun s₂ h₂ => ?_⟩
    cases h₂
    exact ⟨⟨stalled_steady, by decide +kernel⟩, fun _ _ => trivial⟩
  have hlast : (run (act host) own idle).map (fun t => t.lastRemoval false) = some (some false) := by decide +kernel
  obtain ⟨t, hrun, hlast⟩ := Option.map_eq_some_iff.1 hlast
  obtain ⟨hreached, hkept⟩ := cleanup_reaches hrun hsteady rfl
  exact ⟨t, hrun, hreached (by decide) false List.mem_cons_self,
    hkept idle [] t (List.append_nil _).symm hrun false (.inl hlast)⟩

end Livetich.Board.Assets
