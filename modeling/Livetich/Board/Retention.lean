/-
Cleanup of the boards: `BoardAssetRetentionService.removeExpiredAssets` and `removeSessionAssets`, as calls whose every
request may fail, between the uploads, reads and board edits. An asset is bound to the session that its marker names.
-/
import Livetich.Board.Assets
import Livetich.Lib.Calls
import Livetich.Lib.Cursor

namespace Livetich.Board.Assets

open TransSys Livetich.Lib Livetich.Lib.Calls
open Livetich.Js (textUnits)

/-! ## Ids in a board -/

/-- The group of `/\/board-asset\/(?:[^/]+\/)?([^/]+)$/`. -/
def lastSegment (path : List Char) : Option (List Char) :=
  match (path.splitOn '/').reverse with
  | last :: folder :: above :: rest =>
    if last ≠ [] ∧ (folder = "board-asset".toList ∨
        folder ≠ [] ∧ above = "board-asset".toList ∧ rest ≠ []) then some last
    else none
  | _ => none

def isHex (c : Char) : Bool := "0123456789abcdefABCDEF".toList.contains c

/-- The test for a UUID, versions 1 to 8. -/
def isUuid (id : List Char) : Bool :=
  match id.splitOn '-' with
  | [a, b, c, d, e] =>
    [a.length, b.length, c.length, d.length, e.length] == [8, 4, 4, 4, 12] && (a ++ b ++ c ++ d ++ e).all isHex &&
      c.head?.any "12345678".toList.contains && d.head?.any "89abAB".toList.contains
  | _ => false

section Named

variable {Session : Type} (host : Host Session)

/-- The asset that a URL names. -/
def namedId (url : String) : Option AssetId := do
  let path ← host.pathname url
  let segment ← lastSegment path.toList
  let id ← Js.decodeURIComponent segment
  if isUuid id then some (String.ofList id) else none

/-- The assets that a saved board names, `none` where it cannot be read. -/
def namedIds (snapshot : Buffer) : Option (List AssetId) :=
  (host.applyUpdate snapshot).map fun urls => (urls.filterMap id).filterMap (namedId host)

end Named

/-! ## The calls -/

inductive Failure
  | redis
  | database
  deriving DecidableEq

/-- Which requests of `removeSessionAssets` fail. -/
structure RemoveFaults where
  members : Bool
  read : Bool
  delete : String → Bool
  srem : AssetId → Bool
  scard : Bool
  board : Bool
  del : Bool

/-- Which requests of `removeExpiredAssets` fail, on the way through the retries and after it, and the order in which
Redis returns a set. -/
structure Faults (Session : Type) where
  retries : Bool
  again : Session → RemoveFaults
  srem : Session → Bool
  cursor : Bool
  window : Bool
  rewind : Bool
  first : Bool
  remove : Session → RemoveFaults
  sadd : Session → Bool
  save : Bool
  scan : Scan Session

abbrev StoreCalls (Session : Type) := Calls (Store Session) Failure

section Calls

variable {Session : Type} (host : Host Session)

/-- A delete that may fail. -/
def Store.deleteOne (faults : RemoveFaults) (s : Store Session) (key : String) : Store Session :=
  if faults.delete key then s else s.delete host key

/-- The three deletes are sent off at once. -/
def Store.deleteKeys (faults : RemoveFaults) (s : Store Session) (id : AssetId) : Store Session :=
  (keys id).foldl (Store.deleteOne host faults) s

variable [DecidableEq Session]

def removeAsset (faults : RemoveFaults) (session : Session) (id : AssetId) : StoreCalls Session Bool := do
  writes fun s => s.deleteKeys host faults id
  if (keys id).any faults.delete || faults.srem id then return false
  else do
    writes fun s => s.srem session id
    return true

/-- The loop over the ids; whether it is complete. -/
def removeAssets (faults : RemoveFaults) (session : Session) : List AssetId → StoreCalls Session Bool
  | [] => return true
  | id :: ids => do
    let removed ← removeAsset host faults session id
    let rest ← removeAssets faults session ids
    return removed && rest

/-- The assets that the session's board names; `none` where the board cannot be read. -/
def Store.boardIds (s : Store Session) (session : Session) : Option (List AssetId) :=
  match s.get host (boardKey (host.name session)) with
  | none => some []
  | some snapshot => namedIds host snapshot

def removeSessionAssets (faults : RemoveFaults) (session : Session) : StoreCalls Session Bool := do
  awaits faults.members .redis
  let ids ← reads fun s => .ok (s.index session)
  let read ← reads fun s => .ok (if faults.read then none else s.boardIds host session)
  match read with
  | none => return false
  | some named => do
    let complete ← removeAssets host faults session (ids ∪ named)
    if complete = false then return false
    else do
      awaits faults.scard .redis
      let left ← reads fun s => .ok (s.index session)
      if left ≠ [] ∨ faults.board = true then return false
      else do
        writes fun s => s.delete host (boardKey (host.name session))
        awaits faults.del .redis
        writes fun s => { s with
          index := Function.update s.index session []
          count := Function.update s.count session 0
          bytes := Function.update s.bytes session 0 }
        return true

/-- The call of `removeSessionAssets` in either loop. -/
def noted (faults : RemoveFaults) (session : Session) : StoreCalls Session Bool := do
  let removed ← removeSessionAssets host faults session
  writes fun s => { s with removals := (session, removed) :: s.removals }
  return removed

def retryDone (faults : Faults Session) (session : Session) : Bool → StoreCalls Session Unit
  | true => do
    awaits (faults.srem session) .redis
    writes fun s => { s with retry := s.retry.filter fun id _ => id != session }
  | false => return ()

/-- The loop over the retries. -/
def removeAgain (faults : Faults Session) : List Session → StoreCalls Session Unit
  | [] => return ()
  | session :: sessions => do
    let removed ← noted host (faults.again session) session
    retryDone faults session removed
    removeAgain faults sessions

def retryLater (faults : Faults Session) (session : Session) : Bool → StoreCalls Session Unit
  | false => do
    awaits (faults.sadd session) .redis
    writes fun s => { s with retry := s.retry.insert session () }
  | true => return ()

/-- The loop over the window. -/
def removeWindow (faults : Faults Session) : List Session → StoreCalls Session Unit
  | [] => return ()
  | session :: sessions => do
    let removed ← noted host (faults.remove session) session
    retryLater faults session removed
    removeWindow faults sessions

end Calls

section Sweep

variable {Session : Type} [LinearOrder Session] (host : Host Session)

/-- The sessions that ended a year ago, in the order of their ids. -/
def Store.expired (s : Store Session) (now : Int) : List Session :=
  ((s.sessions.entries.filter fun e => e.2.status == .ended &&
    e.2.endedAt.any (· < now - 365 * 24 * 60 * 60 * 1000)).map (·.1)).mergeSort fun a b => decide (a ≤ b)

/-- `take: 100` after the cursor. -/
def page (expired : List Session) (cursor : Option Session) : List Session := Cursor.page expired 100 cursor

/-- The window of a run. -/
def window (expired : List Session) (cursor : Option Session) : List Session := Cursor.window expired 100 cursor

theorem window_eq_page (expired : List Session) (cursor : Option Session) : window expired cursor =
    if page expired cursor = [] then page expired none else page expired cursor := rfl

/-- After the last session the window begins anew. -/
def rewound (faults : Faults Session) (now : Int) (cursor : Option Session) (sessions : List Session) :
    StoreCalls Session (List Session) :=
  if sessions = [] ∧ cursor ≠ none then do
    awaits faults.rewind .redis
    writes fun s => { s with cursor := none }
    awaits faults.first .database
    reads fun s => .ok (page (s.expired now) none)
  else return sessions

def save (faults : Faults Session) : Option Session → StoreCalls Session Unit
  | none => return ()
  | some last => do
    awaits faults.save .redis
    writes fun s => { s with cursor := some last }

def removeExpiredAssets (faults : Faults Session) (now : Int) : StoreCalls Session Unit := do
  awaits faults.retries .redis
  let retries ← reads fun s => .ok (faults.scan.order s.retry.keys)
  removeAgain host faults (retries.take 100)
  awaits faults.cursor .redis
  let cursor ← reads fun s => .ok s.cursor
  awaits faults.window .database
  let sessions ← reads fun s => .ok (page (s.expired now) cursor)
  let sessions ← rewound faults now cursor sessions
  removeWindow host faults sessions
  save faults sessions.getLast?

/-! ## Runs -/

inductive Action (Session : Type)
  | use (e : Event Session)
  /-- A run of the cleanup. -/
  | sweep (now : Int) (faults : Faults Session)

def act (s : State Session) : Action Session → Option (State Session)
  | .use e => step host s e
  | .sweep now faults => some { s with toStore := (removeExpiredAssets host faults now s.toStore).1 }

/-- The sessions that a run of the cleanup takes. -/
def Store.cleaned (s : Store Session) (now : Int) (faults : Faults Session) : List Session :=
  (faults.scan.order s.retry.keys).take 100 ++ window (s.expired now) s.cursor

/-- The objects that the cleanup of a session may delete: those of the assets that its index or its board names, and the
board. -/
def Store.targets (s : Store Session) (session : Session) : List String :=
  boardKey (host.name session) :: (s.index session ++ (s.boardIds host session).getD []).flatMap keys

/-- The asset is bound to a session that is not among these. -/
def Store.Foreign (s : Store Session) (sessions : List Session) (id : AssetId) : Prop :=
  isUuid id.toList = true ∧ ∃ owner, s.owner host id = some owner ∧
    ∀ session ∈ sessions, textUnits (host.name session) ≠ owner

/-- A run of the cleanup leaves the assets of all other sessions alone. -/
def Spares (s t : Store Session) (now : Int) (faults : Faults Session) : Prop :=
  ∀ id, s.Foreign host (s.cleaned now faults) id → ∀ key ∈ keys id, t.get host key = s.get host key

/-- No index and no board of a session that is taken names an object of an asset of another session. -/
def NamesOwn (s : State Session) : Action Session → Prop
  | .use _ => True
  | .sweep now faults => ∀ session ∈ s.cleaned now faults, ∀ target ∈ s.targets host session,
      ∀ id, s.Foreign host (s.cleaned now faults) id → ∀ key ∈ keys id, host.place target ≠ host.place key

end Sweep

/-- What is left when `removeSessionAssets` returns `true`. -/
structure Removed {Session : Type} (host : Host Session) (s t : Store Session) (session : Session) : Prop where
  assets : ∀ id ∈ s.index session, ∀ key ∈ keys id, t.get host key = none
  index : t.index session = []
  board : t.get host (boardKey (host.name session)) = none

/-! ## The loop over the assets -/

section Loop

variable {Session : Type} {host : Host Session} {P : Store Session → Prop} {faults : RemoveFaults}

/-- What each delete keeps, all of them keep. -/
theorem deletes_keep (faults : RemoveFaults) : ∀ {l : List String} {s : Store Session},
    (∀ s, ∀ key ∈ l, P s → P (s.delete host key)) → P s → P (l.foldl (Store.deleteOne host faults) s)
  | [], _, _, hs => hs
  | key :: l, s, hP, hs => by
    have hone : P (s.deleteOne host faults key) := by
      unfold Store.deleteOne
      split
      · exact hs
      · exact hP s key List.mem_cons_self hs
    exact deletes_keep (l := l) faults (fun s key' hkey' => hP s key' (List.mem_cons_of_mem _ hkey')) hone

variable [DecidableEq Session] {session : Session}

theorem removeAsset_keeps {id : AssetId} (hdelete : ∀ s, ∀ key ∈ keys id, P s → P (s.delete host key))
    (hsrem : ∀ s, P s → P (s.srem session id)) : Ensures P (removeAsset host faults session id) fun _ => P := by
  unfold removeAsset
  refine (Ensures.writes (J := P) fun s hs => deletes_keep faults hdelete hs).bind fun _ => ?_
  split
  · exact Ensures.pure fun _ hs => hs
  · exact (Ensures.writes (J := P) hsrem).bind fun _ => Ensures.pure fun _ hs => hs

/-- The loop returns whatever fails, and keeps what the deletes of its keys and of its entries keep. -/
theorem removeAssets_keeps : ∀ {ids : List AssetId},
    (∀ s, ∀ id ∈ ids, ∀ key ∈ keys id, P s → P (s.delete host key)) → (∀ s id, P s → P (s.srem session id)) →
      Ensures P (removeAssets host faults session ids) fun _ => P
  | [], _, _ => Ensures.pure fun _ hs => hs
  | id :: ids, hdelete, hsrem => by
    have hone : Ensures P (removeAsset host faults session id) fun _ => P :=
      removeAsset_keeps (fun s => hdelete s id List.mem_cons_self) fun s => hsrem s id
    have hrest : Ensures P (removeAssets host faults session ids) fun _ => P :=
      removeAssets_keeps (fun s id' hid' => hdelete s id' (List.mem_cons_of_mem _ hid')) hsrem
    unfold removeAssets
    exact hone.bind fun _ => hrest.bind fun _ => Ensures.pure fun _ hs => hs

end Loop

/-! ## What a run may delete -/

section Within

variable {Session : Type} {host : Host Session} {now : Int} {s₀ s : Store Session} {sessions : List Session}
  {cursor : Option Session}

/-- What the cleanup of these sessions leaves of a store on its way. -/
structure Within (host : Host Session) (s₀ : Store Session) (sessions : List Session) (s : Store Session) : Prop where
  objects : ∀ p, s.objects p = s₀.objects p ∨
    s.objects p = none ∧ ∃ session ∈ sessions, ∃ target ∈ s₀.targets host session, host.place target = p
  index : ∀ session, s.index session ⊆ s₀.index session
  rows : s.sessions = s₀.sessions

theorem Within.refl : Within host s₀ sessions s₀ := ⟨fun _ => .inl rfl, fun _ _ h => h, rfl⟩

theorem Within.delete (h : Within host s₀ sessions s) {session : Session} (hsession : session ∈ sessions) {key : String}
    (hkey : key ∈ s₀.targets host session) : Within host s₀ sessions (s.delete host key) := by
  refine ⟨fun p => ?_, h.index, h.rows⟩
  by_cases hp : p = host.place key
  · subst hp
    exact .inr ⟨Function.update_self .., session, hsession, key, hkey, rfl⟩
  · rw [show (s.delete host key).objects p = s.objects p from Function.update_of_ne hp ..]
    exact h.objects p

/-- What leaves the objects and adds to no index. -/
theorem Within.shrink (h : Within host s₀ sessions s) {t : Store Session} (hobjects : t.objects = s.objects)
    (hindex : ∀ session, t.index session ⊆ s.index session) (hrows : t.sessions = s.sessions) :
    Within host s₀ sessions t := by
  refine ⟨fun p => ?_, fun session => List.Subset.trans (hindex session) (h.index session), hrows.trans h.rows⟩
  rw [hobjects]
  exact h.objects p

theorem Within.boardIds (h : Within host s₀ sessions s) {session : Session} {named : List AssetId}
    (hnamed : s.boardIds host session = some named) : named ⊆ (s₀.boardIds host session).getD [] := by
  unfold Store.boardIds Store.get at hnamed ⊢
  rcases h.objects (host.place (boardKey (host.name session))) with hsame | ⟨hgone, -⟩
  · rw [hsame] at hnamed
    rw [hnamed]
    exact fun _ h => h
  · rw [hgone] at hnamed
    cases hnamed
    exact List.nil_subset _

/-- The invariant of the calls up to the read of the cursor. -/
def Before (host : Host Session) (s₀ : Store Session) (sessions : List Session) (cursor : Option Session)
    (s : Store Session) : Prop := Within host s₀ sessions s ∧ s.cursor = cursor

/-- What the cleanup of a session may delete of an asset. -/
theorem mem_targets {session : Session} {id : AssetId}
    (h : id ∈ s₀.index session ++ (s₀.boardIds host session).getD []) {key : String} (hkey : key ∈ keys id) :
    key ∈ s₀.targets host session :=
  List.mem_cons_of_mem _ (List.mem_flatMap.2 ⟨id, h, hkey⟩)

variable [DecidableEq Session]

theorem update_subset {f : Session → List AssetId} {session : Session} {ids : List AssetId} (h : ids ⊆ f session)
    (other : Session) : Function.update f session ids other ⊆ f other := by
  by_cases hother : other = session
  · subst hother
    rw [Function.update_self]
    exact h
  · rw [Function.update_of_ne hother]
    exact fun _ h => h

theorem Within.srem (h : Within host s₀ sessions s) (session : Session) (id : AssetId) :
    Within host s₀ sessions (s.srem session id) :=
  h.shrink rfl (update_subset (List.filter_subset_self _)) rfl

theorem removeAssets_yields (faults : RemoveFaults) {session : Session} (hsession : session ∈ sessions)
    {ids : List AssetId} (hids : ∀ id ∈ ids, id ∈ s₀.index session ++ (s₀.boardIds host session).getD []) :
    Yields (Before host s₀ sessions cursor) (Before host s₀ sessions cursor) (removeAssets host faults session ids)
      fun _ => True := by
  refine (removeAssets_keeps (fun s id hid key hkey hs => ?_) fun s id hs => ?_).yields
  · exact ⟨hs.1.delete hsession (mem_targets (hids id hid) hkey), hs.2⟩
  · exact ⟨hs.1.srem session id, hs.2⟩

theorem removeSessionAssets_yields (faults : RemoveFaults) {session : Session} (hsession : session ∈ sessions) :
    Yields (Before host s₀ sessions cursor) (Before host s₀ sessions cursor) (removeSessionAssets host faults session)
      fun _ => True := by
  unfold removeSessionAssets
  refine (Yields.awaits _ _).bind fun _ _ => ?_
  refine (Yields.reads (Q := fun ids => ids ⊆ s₀.index session) fun s hs => hs.1.index session).bind
    fun ids hids => ?_
  refine (Yields.reads (Q := fun read => ∀ named, read = some named → named ⊆ (s₀.boardIds host session).getD [])
    fun s hs named hnamed => ?_).bind fun read hread => ?_
  · split at hnamed
    · cases hnamed
    · exact hs.1.boardIds hnamed
  cases read with
  | none => exact Yields.pure trivial
  | some named =>
    have hall : ∀ id ∈ ids ∪ named, id ∈ s₀.index session ++ (s₀.boardIds host session).getD [] := by
      intro id hid
      rcases List.mem_union_iff.1 hid with h | h
      · exact List.mem_append_left _ (hids h)
      · exact List.mem_append_right _ (hread named rfl h)
    refine (removeAssets_yields faults hsession hall).bind fun complete _ => ?_
    split
    · exact Yields.pure trivial
    refine (Yields.awaits _ _).bind fun _ _ => (Yields.reads (Q := fun _ => True) fun _ _ => trivial).bind
      fun left _ => ?_
    split
    · exact Yields.pure trivial
    refine (Yields.writes fun s hs => ⟨hs.1.delete hsession List.mem_cons_self, hs.2⟩).bind fun _ _ => ?_
    refine (Yields.awaits _ _).bind fun _ _ => (Yields.writes fun s hs => ?_).bind fun _ _ => Yields.pure trivial
    exact ⟨hs.1.shrink rfl (update_subset (List.nil_subset _)) rfl, hs.2⟩

theorem noted_yields (faults : RemoveFaults) {session : Session} (hsession : session ∈ sessions) :
    Yields (Before host s₀ sessions cursor) (Before host s₀ sessions cursor) (noted host faults session)
      fun _ => True := by
  unfold noted
  refine (removeSessionAssets_yields faults hsession).bind fun removed _ => ?_
  refine (Yields.writes fun s hs => ?_).bind fun _ _ => Yields.pure trivial
  exact ⟨hs.1.shrink rfl (fun _ _ h => h) rfl, hs.2⟩

theorem retryDone_yields (faults : Faults Session) (session : Session) (removed : Bool) :
    Yields (Before host s₀ sessions cursor) (Before host s₀ sessions cursor) (retryDone faults session removed)
      fun _ => True := by
  cases removed with
  | false => exact Yields.pure trivial
  | true =>
    refine (Yields.awaits _ _).bind fun _ _ => Yields.writes fun s hs => ?_
    exact ⟨hs.1.shrink rfl (fun _ _ h => h) rfl, hs.2⟩

theorem removeAgain_yields (faults : Faults Session) : ∀ {taken : List Session}, taken ⊆ sessions →
    Yields (Before host s₀ sessions cursor) (Before host s₀ sessions cursor) (removeAgain host faults taken)
      fun _ => True
  | [], _ => Yields.pure trivial
  | session :: taken, h => by
    unfold removeAgain
    refine (noted_yields _ (h List.mem_cons_self)).bind fun removed _ => ?_
    refine (retryDone_yields faults session removed).bind fun _ _ => ?_
    exact removeAgain_yields faults fun id hid => h (List.mem_cons_of_mem _ hid)

theorem retryLater_yields (faults : Faults Session) (session : Session) (removed : Bool) :
    Yields (Before host s₀ sessions cursor) (Before host s₀ sessions cursor) (retryLater faults session removed)
      fun _ => True := by
  cases removed with
  | true => exact Yields.pure trivial
  | false =>
    refine (Yields.awaits _ _).bind fun _ _ => Yields.writes fun s hs => ?_
    exact ⟨hs.1.shrink rfl (fun _ _ h => h) rfl, hs.2⟩

theorem removeWindow_yields (faults : Faults Session) : ∀ {taken : List Session}, taken ⊆ sessions →
    Yields (Before host s₀ sessions cursor) (Before host s₀ sessions cursor) (removeWindow host faults taken)
      fun _ => True
  | [], _ => Yields.pure trivial
  | session :: taken, h => by
    unfold removeWindow
    refine (noted_yields _ (h List.mem_cons_self)).bind fun removed _ => ?_
    refine (retryLater_yields faults session removed).bind fun _ _ => ?_
    exact removeWindow_yields faults fun id hid => h (List.mem_cons_of_mem _ hid)

omit [DecidableEq Session] in
theorem within_of_before {α : Type} {x : StoreCalls Session α} {Q : α → Prop}
    (h : ∀ cursor, Yields (Before host s₀ sessions cursor) (Before host s₀ sessions cursor) x Q) :
    Yields (Within host s₀ sessions) (Within host s₀ sessions) x Q := by
  intro s hs
  obtain ⟨hafter, hreturns⟩ := h s.cursor s ⟨hs, rfl⟩
  exact ⟨hafter.1, hreturns⟩

end Within

section Spares

variable {Session : Type} [LinearOrder Session] {host : Host Session} {now : Int} {s₀ : Store Session}
  {faults : Faults Session}

theorem rewound_yields {sessions taken : List Session} {cursor : Option Session}
    (htaken : taken = page (s₀.expired now) cursor) :
    Yields (Before host s₀ sessions cursor) (Within host s₀ sessions) (rewound faults now cursor taken)
      (· ⊆ window (s₀.expired now) cursor) := by
  rw [window_eq_page]
  unfold rewound
  split
  · rename_i hempty
    rw [htaken] at hempty
    rw [if_pos hempty.1]
    refine Yields.bind' (Yields.awaits _ _) (fun _ hs => hs.1) fun _ _ => ?_
    refine Yields.bind' (J := Within host s₀ sessions) (Yields.writes fun s hs => ?_) (fun _ hs => hs) fun _ _ => ?_
    · exact hs.1.shrink rfl (fun _ _ h => h) rfl
    refine (Yields.awaits _ _).bind fun _ _ => Yields.reads fun s hs => ?_
    unfold Store.expired
    rw [hs.rows]
    exact fun _ h => h
  · intro s hs
    refine ⟨hs.1, fun a ha => ?_⟩
    cases ha
    rw [htaken]
    split
    · rename_i hempty
      rw [hempty]
      exact List.nil_subset _
    · exact fun _ h => h

variable (host) in
theorem removeExpiredAssets_within (faults : Faults Session) (now : Int) (s₀ : Store Session) :
    Within host s₀ (s₀.cleaned now faults) (removeExpiredAssets host faults now s₀).1 := by
  have hstart : ∀ s, s = s₀ → Before host s₀ (s₀.cleaned now faults) s₀.cursor s := by
    rintro s rfl
    exact ⟨.refl, rfl⟩
  have hyields : Yields (· = s₀) (Within host s₀ (s₀.cleaned now faults)) (removeExpiredAssets host faults now)
      fun _ => True := by
    unfold removeExpiredAssets
    refine Yields.bind' (Yields.awaits _ _) (fun s hs => (hstart s hs).1) fun _ _ => ?_
    refine Yields.bind' (Yields.reads (Q := (· = faults.scan.order s₀.retry.keys)) fun s hs => by rw [hs])
      (fun s hs => (hstart s hs).1) fun retries hretries => ?_
    have htaken : retries.take 100 ⊆ s₀.cleaned now faults := by
      rw [hretries]
      exact List.subset_append_left ..
    refine Yields.bind' ((removeAgain_yields faults htaken).of_imp hstart) (fun _ hs => hs.1) fun _ _ => ?_
    refine Yields.bind' (Yields.awaits _ _) (fun _ hs => hs.1) fun _ _ => ?_
    refine Yields.bind' (Yields.reads (Q := (· = s₀.cursor)) fun s hs => hs.2) (fun _ hs => hs.1)
      fun cursor hcursor => ?_
    subst hcursor
    refine Yields.bind' (Yields.awaits _ _) (fun _ hs => hs.1) fun _ _ => ?_
    refine Yields.bind' (Yields.reads (Q := (· = page (s₀.expired now) s₀.cursor)) fun s hs => ?_) (fun _ hs => hs.1)
      fun taken htaken => ?_
    · unfold Store.expired
      rw [hs.1.rows]
    -- From here on the cursor may have been taken away, which no later call reads.
    refine Yields.bind' (rewound_yields htaken) (fun _ hs => hs) fun sessions hsessions => ?_
    have hall : sessions ⊆ s₀.cleaned now faults := List.Subset.trans hsessions (List.subset_append_right ..)
    refine (within_of_before fun _ => removeWindow_yields faults hall).bind fun _ _ => ?_
    cases sessions.getLast? with
    | none => exact Yields.pure trivial
    | some last =>
      refine (Yields.awaits _ _).bind fun _ _ => Yields.writes fun s hs => ?_
      exact hs.shrink rfl (fun _ _ h => h) rfl
  exact (hyields s₀ rfl).1

/-- A run that names only its own assets spares the others. -/
theorem spares_of_namesOwn {s : State Session} (h : NamesOwn host s (.sweep now faults)) :
    Spares host s.toStore (removeExpiredAssets host faults now s.toStore).1 now faults := by
  intro id hforeign key hkey
  have hwithin := removeExpiredAssets_within host faults now s.toStore
  rcases hwithin.objects (host.place key) with hsame | ⟨-, session, hsession, target, htarget, hplace⟩
  · exact hsame
  · exact absurd hplace (h session hsession target htarget id hforeign key hkey)

end Spares

/-! ## What is left of a session -/

section Removed

variable {Session : Type} [DecidableEq Session] {host : Host Session} {faults : RemoveFaults} {session : Session}
  {s t : Store Session}

omit [DecidableEq Session] in
/-- What is gone stays gone. -/
theorem delete_gone {p : String} (h : s.objects p = none) (key : String) : (s.delete host key).objects p = none := by
  show Function.update s.objects _ none p = none
  by_cases hp : p = host.place key
  · subst hp
    exact Function.update_self ..
  · rw [Function.update_of_ne hp]
    exact h

omit [DecidableEq Session] in
/-- Where no delete fails, the objects are gone. -/
theorem deletes_done : ∀ {l : List String} {s : Store Session}, l.any faults.delete = false →
    ∀ key ∈ l, (l.foldl (Store.deleteOne host faults) s).get host key = none
  | [], _, _ => by simp
  | key :: l, s, hdone => by
    rw [List.any_cons, Bool.or_eq_false_iff] at hdone
    intro key' hkey'
    rcases List.mem_cons.1 hkey' with rfl | hkey'
    · have hone : (s.deleteOne host faults key').objects (host.place key') = none := by
        unfold Store.deleteOne
        rw [hdone.1]
        exact Function.update_self ..
      exact deletes_keep (P := fun s => s.objects (host.place key') = none) (l := l) faults
        (fun s other _ h => delete_gone h other) hone
    · exact deletes_done hdone.2 key' hkey'

theorem removeAssets_gone (p : String) (ids : List AssetId) :
    Ensures (fun s => s.objects p = none) (removeAssets host faults session ids) fun _ s => s.objects p = none :=
  removeAssets_keeps (fun _ _ _ key _ hs => delete_gone hs key) fun _ _ hs => hs

theorem removeAsset_true {id : AssetId} (h : removeAsset host faults session id s = (t, .ok true)) :
    ∀ key ∈ keys id, t.get host key = none := by
  unfold removeAsset at h
  obtain ⟨s₁, _, hwrite, hrest⟩ := Calls.bind_ok_iff.1 h
  cases hwrite
  split at hrest
  · cases hrest
  · rename_i hdone
    rw [Bool.or_eq_true, not_or, Bool.not_eq_true] at hdone
    cases hrest
    exact deletes_done hdone.1

theorem removeAssets_true : ∀ {ids : List AssetId} {s t : Store Session},
    removeAssets host faults session ids s = (t, .ok true) → ∀ id ∈ ids, ∀ key ∈ keys id, t.get host key = none
  | [], _, _, _ => by simp
  | id :: ids, s, t, h => by
    unfold removeAssets at h
    obtain ⟨s₁, removed, hone, hrest⟩ := Calls.bind_ok_iff.1 h
    obtain ⟨s₂, rest, hall, hpure⟩ := Calls.bind_ok_iff.1 hrest
    cases hpure' : (removed && rest) with
    | false =>
      rw [hpure'] at hpure
      cases hpure
    | true =>
      rw [Bool.and_eq_true] at hpure'
      obtain ⟨rfl, rfl⟩ := hpure'
      cases hpure
      intro id' hid' key hkey
      rcases List.mem_cons.1 hid' with rfl | hid'
      · obtain ⟨u, _, hrun, hgone⟩ := removeAssets_gone (host.place key) ids s₁ (removeAsset_true hone key hkey)
        rw [hall] at hrun
        cases hrun
        exact hgone
      · exact removeAssets_true hall id' hid' key hkey

/-- What `removeSessionAssets` has done when it returns `true`. -/
theorem removeSessionAssets_true (h : removeSessionAssets host faults session s = (t, .ok true)) :
    Removed host s t session := by
  unfold removeSessionAssets at h
  obtain ⟨s₁, _, hmembers, h₁⟩ := Calls.bind_ok_iff.1 h
  obtain ⟨-, rfl⟩ := check_ok_iff.1 hmembers
  obtain ⟨s₂, ids, hids, h₂⟩ := Calls.bind_ok_iff.1 h₁
  cases hids
  obtain ⟨s₃, read, hread, h₃⟩ := Calls.bind_ok_iff.1 h₂
  cases hread
  cases hnamed : (if faults.read then none else s₁.boardIds host session) with
  | none =>
    rw [hnamed] at h₃
    cases h₃
  | some named =>
    rw [hnamed] at h₃
    obtain ⟨s₄, complete, hall, h₄⟩ := Calls.bind_ok_iff.1 h₃
    cases complete with
    | false => cases h₄
    | true =>
      rw [if_neg (by decide)] at h₄
      obtain ⟨s₅, _, hscard, h₅⟩ := Calls.bind_ok_iff.1 h₄
      obtain ⟨-, rfl⟩ := check_ok_iff.1 hscard
      obtain ⟨s₆, left, hleft, h₆⟩ := Calls.bind_ok_iff.1 h₅
      cases hleft
      split at h₆
      · cases h₆
      · obtain ⟨s₇, _, hboard, h₇⟩ := Calls.bind_ok_iff.1 h₆
        cases hboard
        obtain ⟨s₈, _, hdel, h₈⟩ := Calls.bind_ok_iff.1 h₇
        obtain ⟨-, rfl⟩ := check_ok_iff.1 hdel
        cases h₈
        refine ⟨fun id hid key hkey => ?_, Function.update_self .., Function.update_self ..⟩
        exact delete_gone (removeAssets_true hall id (List.mem_union_iff.2 (.inl hid)) key hkey) _

end Removed

/-! ## Every run -/

section Runs

variable {Session : Type} [LinearOrder Session]

/-- In every run in which no session that is cleaned names an asset of another one, every cleanup spares the assets of
all other sessions; and in every state where a removal returns `true`, what it should remove is gone. -/
theorem cleanup_spares {host : Host Session} {s : State Session} {es : List (Action Session)}
    (hown : Meets (act host) (NamesOwn host) s es) :
    (∀ es₁ now faults es₂ u v, es = es₁ ++ .sweep now faults :: es₂ → run (act host) s es₁ = some u →
      act host u (.sweep now faults) = some v → Spares host u.toStore v.toStore now faults) ∧
    ∀ es₁ es₂ u, es = es₁ ++ es₂ → run (act host) s es₁ = some u → ∀ faults session v,
      removeSessionAssets host faults session u.toStore = (v, .ok true) → Removed host u.toStore v session := by
  refine ⟨fun es₁ now faults es₂ u v hes hrun hact => ?_, fun _ _ u _ _ faults session v => removeSessionAssets_true⟩
  rw [hes] at hown
  have hsweep := (meets_append hown hrun).2
  cases hact
  exact spares_of_namesOwn hsweep.1

end Runs

namespace Example

def noFaults : RemoveFaults := ⟨false, false, fun _ => false, fun _ => false, false, false, false⟩

def smooth : Faults Bool :=
  ⟨false, fun _ => noFaults, fun _ => false, false, false, false, false, fun _ => noFaults, fun _ => false, false,
    ⟨id, fun _ => .refl _⟩⟩

def aYearOn : Int := 2 * 365 * 24 * 60 * 60 * 1000

/-- Yusuf uploads an image to the evening class, the board of the morning class names it, and the morning class ends. -/
def borrowed : List (Action Bool) :=
  [.use (.upload 0 yusuf true (some png)), .use (.resume 0 asset)] ++ List.replicate 4 (.use (.resume 0 "")) ++
    [.use (.edit false [1]), .use (.change (start ended live).sessions [] fun _ => false)]

/-- An image of the morning class, which is long over. -/
def own : State Bool :=
  { start ended live with
    objects := fun p => if p = sessionKey asset then some (ofText "morning")
      else if p = assetKey asset then some png.buffer else none
    index := fun session => if session then [] else [asset] }

end Example

open Example in
/-- The image of the evening class goes with the morning class. -/
theorem borrowed_deleted : ∃ u v, run (act host) (start live live) borrowed = some u ∧
    act host u (.sweep aYearOn smooth) = some v ∧ ¬Spares host u.toStore v.toStore aYearOn smooth := by
  have hrun : (run (act host) (start live live) borrowed).map (fun u => (u.owner host asset,
      u.get host (assetKey asset), u.cleaned aYearOn smooth,
      (removeExpiredAssets host smooth aYearOn u.toStore).1.get host (assetKey asset))) =
        some (some (textUnits "evening"), some png.buffer, [false], none) := by
    decide +kernel
  obtain ⟨u, hu, hfacts⟩ := Option.map_eq_some_iff.1 hrun
  rw [Prod.mk.injEq, Prod.mk.injEq, Prod.mk.injEq] at hfacts
  obtain ⟨howner, himage, hcleaned, hgone⟩ := hfacts
  refine ⟨u, _, hu, rfl, fun hspares => ?_⟩
  have hforeign : u.Foreign host (u.cleaned aYearOn smooth) asset := by
    refine ⟨by decide +kernel, _, howner, fun session hsession => ?_⟩
    rw [hcleaned, List.mem_singleton] at hsession
    subst hsession
    decide
  have hkept := hspares asset hforeign (assetKey asset) List.mem_cons_self
  rw [himage] at hkept
  exact absurd (hgone.symm.trans hkept) (by decide)

open Example in
/-- A class that names only its own image loses that, and nothing else. -/
theorem own_deleted :
    (removeExpiredAssets host smooth aYearOn own.toStore).1.get host (assetKey asset) = none ∧
      ∀ v, act host own (.sweep aYearOn smooth) = some v → Spares host own.toStore v.toStore aYearOn smooth := by
  have hcleaned : own.cleaned aYearOn smooth = [false] := by decide +kernel
  have hnone : ∀ id, ¬own.Foreign host (own.cleaned aYearOn smooth) id := by
    rintro id ⟨-, owner, howner, hother⟩
    have hasset : sessionKey id ≠ assetKey asset := by
      intro heq
      have hlast := congrArg (fun s : String => s.toList.reverse.head?) heq
      simp [sessionKey, assetKey, asset] at hlast
    have hsession : sessionKey id = sessionKey asset := by
      by_contra hne
      have hget : own.objects (sessionKey id) = none := by
        show (if _ then _ else if _ then _ else none) = none
        rw [if_neg hne, if_neg hasset]
      unfold Store.owner Store.get at howner
      rw [show host.place (sessionKey id) = sessionKey id from rfl, hget] at howner
      cases howner
    have hmorning : own.owner host asset = some (textUnits "morning") := by decide
    unfold Store.owner at howner hmorning
    rw [hsession, hmorning, Option.some.injEq] at howner
    refine hother false ?_ howner
    rw [hcleaned]
    exact List.mem_cons_self
  have hown : Meets (act host) (NamesOwn host) own [.sweep aYearOn smooth] :=
    ⟨fun _ _ _ _ id hforeign => absurd hforeign (hnone id), fun _ _ => trivial⟩
  exact ⟨by decide +kernel, fun v hv => (cleanup_spares hown).1 [] aYearOn smooth [] own v rfl rfl hv⟩

end Livetich.Board.Assets
