/-
Presence shows who has joined visibly, as long as no handler goes by a hidden socket: in every run
in which a handler of a visible socket that ends without removing the presence entry leaves another
visible socket of its user behind, and entries are written and removed while the sockets still say
so, the presence of a session at rest lists exactly the users with a connected socket that joined
it visibly.

The shadow flag is one per socket and is written before the join is authorised, and
`userStillInRoom` counts hidden sockets; the runs after the theorem show a user who stays listed
through a recorder, and one through a flag that another join has set.
-/
import Livetich.Room.Membership

namespace Livetich.Room.Membership

open TransSys

/-! ## The property -/

/-- The user has a connected socket, its number passing `p`, that joined the session visibly. -/
def ShowsOn (s : State) (p : Nat → Bool) (sessionId : SessionId) (userId : UserId) : Prop :=
  ∃ c k, p c = true ∧ s.sockets.get c = some k ∧ k.connected = true ∧ sessionId ∈ k.visible ∧
    k.user.sub = userId

abbrev Shows (s : State) (sessionId : SessionId) (userId : UserId) : Prop :=
  ShowsOn s (fun _ => true) sessionId userId

/-- A socket other than `c` shows the user. -/
abbrev ShowsElsewhere (s : State) (c : Nat) (sessionId : SessionId) (userId : UserId) : Prop :=
  ShowsOn s (· != c) sessionId userId

def Present (s : State) (sessionId : SessionId) (userId : UserId) : Prop :=
  ∃ p ∈ s.presence, p.1 = sessionId ∧ p.2.userId = userId

/-- Presence is exactly the visible sockets. -/
def Exact (s : State) : Prop := ∀ sessionId userId, Present s sessionId userId ↔ Shows s sessionId userId

/-- No handler is in flight. -/
def AtRest (s : State) : Prop := s.tasks.entries = []

instance (s : State) (p : Nat → Bool) (sessionId : SessionId) (userId : UserId) :
    Decidable (ShowsOn s p sessionId userId) :=
  decidable_of_iff (∃ q ∈ s.sockets.entries, p q.1 = true ∧ q.2.connected = true ∧
      sessionId ∈ q.2.visible ∧ q.2.user.sub = userId) <| by
    constructor
    · rintro ⟨⟨c, k⟩, hq, hp, hk⟩
      exact ⟨c, k, hp, Pool.get_of_mem hq, hk⟩
    · rintro ⟨c, k, hp, hk, h⟩
      exact ⟨(c, k), Pool.mem_of_get hk, hp, h⟩

instance (s : State) (sessionId : SessionId) (userId : UserId) :
    Decidable (Present s sessionId userId) :=
  inferInstanceAs (Decidable (∃ p ∈ s.presence, p.1 = sessionId ∧ p.2.userId = userId))

/-! ## The condition -/

/-- The entry a join is about to write. -/
def Task.adds : Task → Option (SessionId × UserId)
  | .joinPresence _ sessionId user => some (sessionId, user.userId)
  | _ => none

def Adding (s : State) (sessionId : SessionId) (userId : UserId) : Prop :=
  ∃ p ∈ s.tasks.entries, p.2.adds = some (sessionId, userId)

instance (s : State) (sessionId : SessionId) (userId : UserId) : Decidable (Adding s sessionId userId) :=
  inferInstanceAs (Decidable (∃ p ∈ s.tasks.entries, p.2.adds = some (sessionId, userId)))

def flagged (s : State) (c : Nat) : Bool := (s.sockets.get c).any (·.shadow)

/-- An entry is written while a socket shows the user and removed while none does, but for a join
that will write it again; a handler of a visible socket that skips the removal, because it finds
another socket or the flag is set, leaves a socket that shows the user. -/
def TaskOk (s : State) : Task → Prop
  | .joinPresence _ sessionId user => Shows s sessionId user.userId
  | .leaveFetch c userId sessionId visible =>
    visible = true → s.userStillInRoom sessionId userId c = true → Shows s sessionId userId
  | .leaveRemove _ userId sessionId _ => Shows s sessionId userId → Adding s sessionId userId
  | .dropFetch c userId _ sessionId owed => s.userStillInRoom sessionId userId c = true →
      (sessionId ∈ owed → Shows s sessionId userId) ∧
      (flagged s c = true → ∀ other ∈ owed, Shows s other userId)
  | .dropRemove _ userId _ sessionId _ => Shows s sessionId userId → Adding s sessionId userId
  | .dropNext c userId _ owed => flagged s c = true → ∀ other ∈ owed, Shows s other userId
  | _ => True

def Plain (s : State) : Event → Prop
  | .leave _ c sessionId => ∀ k ∈ s.sockets.get c, k.user.recorder = none → k.shadow = true →
      sessionId ∈ k.visible → ShowsElsewhere s c sessionId k.user.sub
  | .disconnect _ c => ∀ k ∈ s.sockets.get c, k.shadow = true →
      ∀ sessionId ∈ k.visible, ShowsElsewhere s c sessionId k.user.sub
  | .resume i => ∀ t ∈ s.tasks.get i, TaskOk s t
  | _ => True

instance : ∀ s t, Decidable (TaskOk s t)
  | s, .joinPresence _ sessionId user => inferInstanceAs (Decidable (Shows s sessionId user.userId))
  | s, .leaveFetch c userId sessionId visible => inferInstanceAs (Decidable
      (visible = true → s.userStillInRoom sessionId userId c = true → Shows s sessionId userId))
  | s, .leaveRemove _ userId sessionId _ => inferInstanceAs (Decidable
      (Shows s sessionId userId → Adding s sessionId userId))
  | s, .dropFetch c userId _ sessionId owed => inferInstanceAs (Decidable
      (s.userStillInRoom sessionId userId c = true → (sessionId ∈ owed → Shows s sessionId userId) ∧
        (flagged s c = true → ∀ other ∈ owed, Shows s other userId)))
  | s, .dropRemove _ userId _ sessionId _ => inferInstanceAs (Decidable
      (Shows s sessionId userId → Adding s sessionId userId))
  | s, .dropNext c userId _ owed => inferInstanceAs (Decidable
      (flagged s c = true → ∀ other ∈ owed, Shows s other userId))
  | _, .joinAuth .. | _, .joinSession .. | _, .joinEnrolled .. => inferInstanceAs (Decidable True)

instance : ∀ s e, Decidable (Plain s e)
  | s, .leave _ c sessionId => inferInstanceAs (Decidable (∀ k ∈ s.sockets.get c,
      k.user.recorder = none → k.shadow = true → sessionId ∈ k.visible →
        ShowsElsewhere s c sessionId k.user.sub))
  | s, .disconnect _ c => inferInstanceAs (Decidable (∀ k ∈ s.sockets.get c, k.shadow = true →
      ∀ sessionId ∈ k.visible, ShowsElsewhere s c sessionId k.user.sub))
  | s, .resume i => inferInstanceAs (Decidable (∀ t ∈ s.tasks.get i, TaskOk s t))
  | _, .connect .. | _, .join .. | _, .authReady .. | _, .session .. | _, .enrolled .. =>
    inferInstanceAs (Decidable True)

/-! ## The invariant -/

/-- The task is to deal with the entry of a user whose visible socket has left the session. -/
def Task.Owes (sessionId : SessionId) (userId : UserId) : Task → Prop
  | .leaveFetch _ u x visible => visible = true ∧ x = sessionId ∧ u = userId
  | .leaveRemove _ u x visible => visible = true ∧ x = sessionId ∧ u = userId
  | .dropFetch _ u _ _ owed => sessionId ∈ owed ∧ u = userId
  | .dropRemove _ u _ _ owed => sessionId ∈ owed ∧ u = userId
  | .dropNext _ u _ owed => sessionId ∈ owed ∧ u = userId
  | _ => False

/-- The loop over the sessions of a lost socket has those it owes still before it. -/
def Ahead (s : State) (c : Nat) (userId : UserId) (cursor : Nat) (owed : List SessionId) : Prop :=
  ∃ k, s.sockets.get c = some k ∧ k.user.sub = userId ∧ k.connected = false ∧
    ∀ x ∈ owed, ∃ n, cursor ≤ n ∧ (n, x) ∈ k.sessionIds

def TaskInv (s : State) : Task → Prop
  | .dropFetch c userId cursor sessionId owed => Ahead s c userId cursor (owed.filter (· != sessionId))
  | .dropRemove c userId cursor sessionId owed => Ahead s c userId cursor (owed.filter (· != sessionId))
  | .dropNext c userId cursor owed => Ahead s c userId cursor owed
  | _ => True

structure SockInv (next : Nat) (k : Sock) : Prop where
  ordered : k.sessionIds.Pairwise fun a b => a.1 < b.1
  numbered : ∀ p ∈ k.sessionIds, p.1 < next
  listed : ∀ x ∈ k.visible, ∃ n, (n, x) ∈ k.sessionIds

structure Inv (s : State) : Prop where
  socks : ∀ c k, s.sockets.get c = some k → SockInv s.nextNumber k
  tasks : ∀ i t, s.tasks.get i = some t → TaskInv s t
  shown : ∀ x u, Shows s x u → Present s x u ∨ ∃ i t, s.tasks.get i = some t ∧ t.adds = some (x, u)
  held : ∀ x u, Present s x u → Shows s x u ∨ ∃ i t, s.tasks.get i = some t ∧ t.Owes x u

theorem inv_init : Inv init where
  socks := by simp [init]
  tasks := by simp [init]
  shown := by rintro x u ⟨c, k, -, hk, -⟩; simp [init] at hk
  held := by rintro x u ⟨p, hp, -⟩; simp [init] at hp

/-! ## Presence entries -/

theorem keeps_iff {p : SessionId × RoomUser} {x : SessionId} {u : UserId} :
    (!(p.1 == x && p.2.userId == u)) = true ↔ ¬(p.1 = x ∧ p.2.userId = u) := by
  rw [Bool.not_eq_true', ← Bool.not_eq_true, Bool.and_eq_true, beq_iff_eq, beq_iff_eq]

theorem present_add {s : State} {x : SessionId} {r : RoomUser} {x' : SessionId} {u : UserId} :
    Present (s.addPresence x r) x' u ↔ Present s x' u ∨ (x' = x ∧ u = r.userId) := by
  unfold Present State.addPresence
  constructor
  · rintro ⟨p, hp, rfl, rfl⟩
    rcases List.mem_append.1 hp with hp | hp
    · exact .inl ⟨p, (List.mem_filter.1 hp).1, rfl, rfl⟩
    · rw [List.mem_singleton.1 hp]
      exact .inr ⟨rfl, rfl⟩
  · rintro (⟨p, hp, rfl, rfl⟩ | ⟨rfl, rfl⟩)
    · by_cases heq : p.1 = x ∧ p.2.userId = r.userId
      · exact ⟨(x, r), by simp, heq.1.symm, heq.2.symm⟩
      · exact ⟨p, List.mem_append_left _ (List.mem_filter.2 ⟨hp, keeps_iff.2 heq⟩), rfl, rfl⟩
    · exact ⟨(x', r), by simp, rfl, rfl⟩

theorem present_remove {s : State} {x x' : SessionId} {u u' : UserId} :
    Present (s.removePresence x u) x' u' ↔ Present s x' u' ∧ ¬(x' = x ∧ u' = u) := by
  unfold Present State.removePresence
  constructor
  · rintro ⟨p, hp, rfl, rfl⟩
    obtain ⟨hp, hne⟩ := List.mem_filter.1 hp
    exact ⟨⟨p, hp, rfl, rfl⟩, keeps_iff.1 hne⟩
  · rintro ⟨⟨p, hp, rfl, rfl⟩, hne⟩
    exact ⟨p, List.mem_filter.2 ⟨hp, keeps_iff.2 hne⟩, rfl, rfl⟩

/-! ## Sockets -/

theorem ShowsOn.setSock_self {s : State} {p : Nat → Bool} {c : Nat} {k : Sock} {x : SessionId}
    (hp : p c = true) (hk : k.connected = true) (hx : x ∈ k.visible) :
    ShowsOn (s.setSock c k) p x k.user.sub :=
  ⟨c, k, hp, Pool.get_put_self .., hk, hx, rfl⟩

theorem ShowsOn.setSock_other {s : State} {c : Nat} {x : SessionId} {u : UserId}
    (h : ShowsElsewhere s c x u) (k : Sock) : Shows (s.setSock c k) x u := by
  obtain ⟨c', k', hne, hk', hrest⟩ := h
  have hne : c' ≠ c := by simpa using hne
  exact ⟨c', k', rfl, (Pool.get_put_of_ne hne).trans hk', hrest⟩

/-- Who shows a user after one socket has changed. -/
theorem shows_setSock {s : State} {c : Nat} {k : Sock} {x : SessionId} {u : UserId}
    (h : Shows (s.setSock c k) x u) :
    (k.connected = true ∧ x ∈ k.visible ∧ k.user.sub = u) ∨ ShowsElsewhere s c x u := by
  obtain ⟨c', k', -, hk', hrest⟩ := h
  rcases Pool.get_put_cases hk' with ⟨-, hk'⟩ | ⟨hne, hk'⟩
  · cases hk'
    exact .inl hrest
  · exact .inr ⟨c', k', by simpa using hne, hk', hrest⟩

theorem shows_cases {s : State} {c : Nat} {k : Sock} (hk : s.sockets.get c = some k) {x : SessionId}
    {u : UserId} (h : Shows s x u) :
    (k.connected = true ∧ x ∈ k.visible ∧ k.user.sub = u) ∨ ShowsElsewhere s c x u := by
  obtain ⟨c', k', -, hk', hrest⟩ := h
  by_cases hne : c' = c
  · subst hne
    rw [hk] at hk'
    cases hk'
    exact .inl hrest
  · exact .inr ⟨c', k', by simpa using hne, hk', hrest⟩

theorem showsElsewhere_shows {s : State} {c : Nat} {x : SessionId} {u : UserId}
    (h : ShowsElsewhere s c x u) : Shows s x u := by
  obtain ⟨c', k', -, hrest⟩ := h
  exact ⟨c', k', rfl, hrest⟩

/-! ## The loop of a lost socket -/

theorem find_first {l : List (Nat × SessionId)} (ho : l.Pairwise fun a b => a.1 < b.1)
    {p : Nat × SessionId → Bool} {a b : Nat × SessionId} (ha : l.find? p = some a) (hb : b ∈ l)
    (hpb : p b = true) : b = a ∨ a.1 < b.1 := by
  obtain ⟨-, as, bs, rfl, hnot⟩ := List.find?_eq_some_iff_append.1 ha
  rcases List.mem_append.1 hb with hb | hb
  · have := hnot b hb
    rw [hpb] at this
    cases this
  · rcases List.mem_cons.1 hb with rfl | hb
    · exact .inl rfl
    · obtain ⟨-, ho, -⟩ := List.pairwise_append.1 ho
      exact .inr ((List.pairwise_cons.1 ho).1 b hb)

/-- The loop waits for a session it owes nothing before, or owes nothing, or the flag is set. -/
theorem dropLoop_spec {s : State} {c cursor : Nat} {k : Sock} {owed : List SessionId}
    (hsock : SockInv s.nextNumber k) (hk : s.sockets.get c = some k)
    (hahead : Ahead s c k.user.sub cursor owed) :
    (∀ t ∈ dropLoop c k cursor owed, TaskInv s t ∧ ∀ x ∈ owed, t.Owes x k.user.sub) ∧
    (∀ t ∈ dropLoop c k cursor owed, t.adds = none) ∧
    (dropLoop c k cursor owed = none → k.shadow = true ∨ owed = []) := by
  obtain ⟨k', hk', hu, hdown, howed⟩ := hahead
  obtain rfl : k = k' := Option.some.inj (hk.symm.trans hk')
  unfold dropLoop
  cases hf : k.sessionIds.find? fun p => decide (cursor ≤ p.1) with
  | none =>
    refine ⟨(by intro t ht; cases ht), (by intro t ht; cases ht), fun _ => .inr ?_⟩
    rw [List.eq_nil_iff_forall_not_mem]
    intro x hx
    obtain ⟨n, hn, hmem⟩ := howed x hx
    have := List.find?_eq_none.1 hf _ hmem
    simp only [decide_eq_true_eq] at this
    omega
  | some q =>
    obtain ⟨number, sessionId⟩ := q
    dsimp only
    split
    · rename_i hflag
      exact ⟨(by intro t ht; cases ht), (by intro t ht; cases ht), fun _ => .inl hflag⟩
    · refine ⟨?_, by intro t ht; cases ht; rfl, by intro h; cases h⟩
      intro t ht
      cases ht
      refine ⟨⟨k, hk, rfl, hdown, fun x hx => ?_⟩, fun x hx => ⟨hx, rfl⟩⟩
      obtain ⟨hx, hne⟩ := List.mem_filter.1 hx
      obtain ⟨n, hn, hmem⟩ := howed x hx
      refine ⟨n, ?_, hmem⟩
      rcases find_first hsock.ordered hf hmem (by simpa using hn) with heq | hlt
      · cases heq
        simp at hne
      · exact hlt

/-! ## What a change of one task, of one entry and of one socket keep -/

namespace Inv

variable {s : State}

/-- A task goes on or ends; what it was to add is there, and what it owed is shown. -/
theorem goto (h : Inv s) {i : Nat} {t : Option Task} (ht : ∀ u ∈ t, TaskInv s u)
    (hadds : ∀ t₀ ∈ s.tasks.get i, ∀ x u, t₀.adds = some (x, u) → Present s x u)
    (howes : ∀ t₀ ∈ s.tasks.get i, ∀ x u, t₀.Owes x u →
      (∃ t₁ ∈ t, t₁.Owes x u) ∨ (Present s x u → Shows s x u)) : Inv (s.goto i t) where
  socks := h.socks
  tasks := by
    intro j u hu
    rcases Pool.get_put_cases hu with ⟨-, hu⟩ | ⟨-, hu⟩
    · exact ht u hu
    · exact h.tasks j u hu
  shown := by
    intro x u hx
    rcases h.shown x u hx with hp | ⟨j, t₀, hj, ha⟩
    · exact .inl hp
    · by_cases hji : j = i
      · subst hji
        exact .inl (hadds t₀ hj x u ha)
      · exact .inr ⟨j, t₀, (Pool.get_put_of_ne hji).trans hj, ha⟩
  held := by
    intro x u hp
    rcases h.held x u hp with hs | ⟨j, t₀, hj, ho⟩
    · exact .inl hs
    · by_cases hji : j = i
      · subst hji
        rcases howes t₀ hj x u ho with ⟨t₁, ht₁, ho₁⟩ | hs
        · obtain rfl : t = some t₁ := ht₁
          exact .inr ⟨j, t₁, Pool.get_put_self .., ho₁⟩
        · exact .inl (hs hp)
      · exact .inr ⟨j, t₀, (Pool.get_put_of_ne hji).trans hj, ho⟩

theorem addPresence (h : Inv s) {x : SessionId} {r : RoomUser} (hs : Shows s x r.userId) :
    Inv (s.addPresence x r) where
  socks := h.socks
  tasks := h.tasks
  shown := by
    intro x' u hx
    exact (h.shown x' u hx).imp_left fun hp => present_add.2 (.inl hp)
  held := by
    intro x' u hp
    rcases present_add.1 hp with hp | ⟨rfl, rfl⟩
    · exact h.held x' u hp
    · exact .inl hs

theorem removePresence (h : Inv s) {x : SessionId} {u : UserId} (hs : Shows s x u → Adding s x u) :
    Inv (s.removePresence x u) where
  socks := h.socks
  tasks := h.tasks
  shown := by
    intro x' u' hx
    by_cases heq : x' = x ∧ u' = u
    · obtain ⟨rfl, rfl⟩ := heq
      obtain ⟨⟨j, t⟩, hj, ha⟩ := hs hx
      exact .inr ⟨j, t, Pool.get_of_mem hj, ha⟩
    · exact (h.shown x' u' hx).imp_left fun hp => present_remove.2 ⟨hp, heq⟩
  held := fun x' u' hp => h.held x' u' (present_remove.1 hp).1

/-- A socket and a task that was neither adding nor owing change together. -/
theorem update (h : Inv s) {i c : Nat} {k k' : Sock} {t : Option Task} {n : Nat}
    (hk : s.sockets.get c = some k)
    (hn : s.nextNumber ≤ n) (hsock : SockInv n k') (huser : k'.user = k.user)
    (hgrow : k.connected = false → k'.connected = false ∧ ∀ p ∈ k.sessionIds, p ∈ k'.sessionIds)
    (ht : ∀ u ∈ t, TaskInv (s.setSock c k') u)
    (hplain : ∀ t₀ ∈ s.tasks.get i, t₀.adds = none ∧ ∀ x u, ¬t₀.Owes x u)
    (hgain : ∀ x, k'.connected = true → x ∈ k'.visible →
      (k.connected = true ∧ x ∈ k.visible) ∨ ∃ u ∈ t, u.adds = some (x, k.user.sub))
    (hlose : ∀ x, k.connected = true → x ∈ k.visible → (k'.connected = true ∧ x ∈ k'.visible) ∨
      ShowsElsewhere s c x k.user.sub ∨ ∃ u ∈ t, u.Owes x k.user.sub) :
    Inv ({ s.setSock c k' with nextNumber := n }.goto i t) := by
  have hahead : ∀ c' u cursor owed, Ahead s c' u cursor owed → Ahead (s.setSock c k') c' u cursor owed := by
    rintro c' u cursor owed ⟨k₀, hk₀, hu, hdown, howed⟩
    by_cases hc : c' = c
    · subst hc
      rw [hk] at hk₀
      cases hk₀
      obtain ⟨hdown', hsub⟩ := hgrow hdown
      refine ⟨k', Pool.get_put_self .., by rw [huser]; exact hu, hdown',
        fun x hx => ?_⟩
      obtain ⟨m, hm, hmem⟩ := howed x hx
      exact ⟨m, hm, hsub _ hmem⟩
    · exact ⟨k₀, (Pool.get_put_of_ne hc).trans hk₀, hu, hdown, howed⟩
  have hkeep : ∀ j t₀, s.tasks.get j = some t₀ → (t₀.adds ≠ none ∨ ∃ x u, t₀.Owes x u) →
      (s.tasks.put i t).get j = some t₀ := by
    intro j t₀ hj hbusy
    have hji : j ≠ i := by
      rintro rfl
      obtain ⟨hadds, howes⟩ := hplain t₀ hj
      rcases hbusy with hb | ⟨x, u, hb⟩
      · exact hb hadds
      · exact howes x u hb
    rw [Pool.get_put_of_ne hji]
    exact hj
  have hnew : ∀ t₁ ∈ t, (s.tasks.put i t).get i = some t₁ := by
    intro t₁ ht₁
    obtain rfl : t = some t₁ := ht₁
    rw [Pool.get_put_self]
  constructor
  · intro c' k₀ hk₀
    have hput : (s.sockets.put c (some k')).get c' = some k₀ := hk₀
    rcases Pool.get_put_cases hput with ⟨-, hput⟩ | ⟨-, hput⟩
    · cases hput
      exact hsock
    · have hold := h.socks c' k₀ hput
      exact ⟨hold.ordered, fun p hp => Nat.lt_of_lt_of_le (hold.numbered p hp) hn, hold.listed⟩
  · intro j u hu
    have hput : (s.tasks.put i t).get j = some u := hu
    rcases Pool.get_put_cases hput with ⟨-, hput⟩ | ⟨-, hput⟩
    · have := ht u hput
      cases u <;> exact this
    · have hold := h.tasks j u hput
      cases u with
      | dropFetch c' u' cursor x owed => exact hahead _ _ _ _ hold
      | dropRemove c' u' cursor x owed => exact hahead _ _ _ _ hold
      | dropNext c' u' cursor owed => exact hahead _ _ _ _ hold
      | _ => trivial
  · intro x u hx
    have hshow : Shows s x u ∨ ∃ t₁ ∈ t, t₁.adds = some (x, u) := by
      rcases shows_setSock (s := s) (c := c) (k := k') hx with ⟨hc, hv, rfl⟩ | helse
      · rw [huser]
        rcases hgain x hc hv with ⟨hc, hv⟩ | hadd
        · exact .inl ⟨c, k, rfl, hk, hc, hv, rfl⟩
        · exact .inr hadd
      · exact .inl (showsElsewhere_shows helse)
    rcases hshow with hs | ⟨t₁, ht₁, ha⟩
    · rcases h.shown x u hs with hp | ⟨j, t₀, hj, ha⟩
      · exact .inl hp
      · exact .inr ⟨j, t₀, hkeep j t₀ hj (.inl (by rw [ha]; exact Option.some_ne_none _)), ha⟩
    · exact .inr ⟨i, t₁, hnew t₁ ht₁, ha⟩
  · intro x u hp
    rcases h.held x u hp with hs | ⟨j, t₀, hj, ho⟩
    · rcases shows_cases hk hs with ⟨hc, hv, rfl⟩ | helse
      · rcases hlose x hc hv with ⟨hc', hv'⟩ | helse | ⟨t₁, ht₁, ho⟩
        · rw [← huser]
          exact .inl (ShowsOn.setSock_self rfl hc' hv')
        · exact .inl (ShowsOn.setSock_other helse k')
        · exact .inr ⟨i, t₁, hnew t₁ ht₁, ho⟩
      · exact .inl (ShowsOn.setSock_other helse k')
    · exact .inr ⟨j, t₀, hkeep j t₀ hj (.inr ⟨x, u, ho⟩), ho⟩

/-- A new socket shows nobody. -/
theorem connect (h : Inv s) {c : Nat} (hc : s.sockets.get c = none) (user : JwtPayload) :
    Inv (s.setSock c (Sock.new user)) := by
  have hold : ∀ c' k, s.sockets.get c' = some k → (s.setSock c (Sock.new user)).sockets.get c' = some k := by
    intro c' k hk
    have hne : c' ≠ c := by rintro rfl; rw [hc] at hk; cases hk
    rw [State.setSock, Pool.get_put_of_ne hne]
    exact hk
  have hahead : ∀ c' u cursor owed, Ahead s c' u cursor owed →
      Ahead (s.setSock c (Sock.new user)) c' u cursor owed := by
    rintro c' u cursor owed ⟨k, hk, hrest⟩
    exact ⟨k, hold c' k hk, hrest⟩
  constructor
  · intro c' k hk
    rcases Pool.get_put_cases hk with ⟨-, hk⟩ | ⟨-, hk⟩
    · cases hk
      exact ⟨List.Pairwise.nil, by simp [Sock.new], by simp [Sock.new]⟩
    · exact h.socks c' k hk
  · intro j t ht
    have := h.tasks j t ht
    cases t with
    | dropFetch c' u' cursor x owed => exact hahead _ _ _ _ this
    | dropRemove c' u' cursor x owed => exact hahead _ _ _ _ this
    | dropNext c' u' cursor owed => exact hahead _ _ _ _ this
    | _ => trivial
  · intro x u hx
    rcases shows_setSock hx with ⟨-, hv, -⟩ | helse
    · simp [Sock.new] at hv
    · exact h.shown x u (showsElsewhere_shows helse)
  · intro x u hp
    refine (h.held x u hp).imp_left ?_
    rintro ⟨c', k, -, hk, hrest⟩
    exact ⟨c', k, rfl, hold c' k hk, hrest⟩

end Inv

/-! ## Every step -/

theorem sockInv_leave {next : Nat} {k : Sock} (h : SockInv next k) (sessionId : SessionId) :
    SockInv next (k.leave sessionId) where
  ordered := h.ordered.filter _
  numbered := fun p hp => h.numbered p (List.mem_filter.1 hp).1
  listed := by
    intro x hx
    obtain ⟨hx, hne⟩ := List.mem_filter.1 hx
    obtain ⟨n, hn⟩ := h.listed x hx
    exact ⟨n, List.mem_filter.2 ⟨hn, hne⟩⟩

theorem sockInv_drop {next : Nat} {k : Sock} (h : SockInv next k) : SockInv next k.drop :=
  ⟨h.ordered, h.numbered, by intro x hx; cases hx⟩

theorem sockInv_enter {next : Nat} {k : Sock} (h : SockInv next k) (sessionId : SessionId)
    (shadow : Bool) : SockInv (next + 1) (k.enter next sessionId shadow) ∧
      ∀ p ∈ k.sessionIds, p ∈ (k.enter next sessionId shadow).sessionIds := by
  have hnumbered : ∀ p ∈ k.sessionIds, p.1 < next + 1 := fun p hp => Nat.lt_succ_of_lt (h.numbered p hp)
  have hvisible : ∀ x ∈ (k.enter next sessionId shadow).visible, x = sessionId ∨ x ∈ k.visible := by
    intro x hx
    unfold Sock.enter at hx
    cases shadow with
    | true => exact .inr hx
    | false => exact List.mem_cons.1 hx
  by_cases hany : k.sessionIds.any (·.2 == sessionId) = true
  · have hids : (k.enter next sessionId shadow).sessionIds = k.sessionIds := if_pos hany
    refine ⟨⟨by rw [hids]; exact h.ordered, by rw [hids]; exact hnumbered, fun x hx => ?_⟩,
      by rw [hids]; exact fun _ hp => hp⟩
    rw [hids]
    rcases hvisible x hx with rfl | hx
    · obtain ⟨p, hp, hpx⟩ := List.any_eq_true.1 hany
      exact ⟨p.1, by rw [← eq_of_beq hpx]; exact hp⟩
    · exact h.listed x hx
  · have hids : (k.enter next sessionId shadow).sessionIds = k.sessionIds ++ [(next, sessionId)] :=
      if_neg hany
    rw [hids]
    refine ⟨⟨?_, ?_, fun x hx => ?_⟩, fun p hp => List.mem_append_left _ hp⟩
    · rw [hids]
      refine List.pairwise_append.2 ⟨h.ordered, List.pairwise_singleton _ _, fun a ha b hb => ?_⟩
      rw [List.mem_singleton.1 hb]
      exact h.numbered a ha
    · rw [hids]
      intro p hp
      rcases List.mem_append.1 hp with hp | hp
      · exact hnumbered p hp
      · rw [List.mem_singleton.1 hp]
        exact Nat.lt_succ_self _
    · rw [hids]
      rcases hvisible x hx with rfl | hx
      · exact ⟨next, List.mem_append_right _ (List.mem_singleton_self _)⟩
      · obtain ⟨n, hn⟩ := h.listed x hx
        exact ⟨n, List.mem_append_left _ hn⟩

/-- The task in slot `i` is about no presence entry. -/
def Idle (s : State) (i : Nat) : Prop := ∀ t ∈ s.tasks.get i, t.adds = none ∧ ∀ x u, ¬t.Owes x u

theorem goto_idle {s : State} (h : Inv s) {i : Nat} (hi : Idle s i) {t : Option Task}
    (ht : ∀ u ∈ t, TaskInv s u) : Inv (s.goto i t) :=
  h.goto ht (fun t₀ ht₀ x u ha => by rw [(hi t₀ ht₀).1] at ha; cases ha)
    (fun t₀ ht₀ x u ho => absurd ho ((hi t₀ ht₀).2 x u))

/-- Entering a room, or only setting the flags of the join. -/
theorem enter_inv {s : State} (h : Inv s) {i c : Nat} (hi : Idle s i) {k : Sock}
    (hk : s.sockets.get c = some k) (teaching flag : Bool) (sessionId : SessionId) (shadow : Bool) :
    Inv (enter s i c { k with teaching := teaching, shadow := flag } sessionId shadow) := by
  have hsock : SockInv s.nextNumber { k with teaching := teaching, shadow := flag } :=
    ⟨(h.socks c k hk).ordered, (h.socks c k hk).numbered, (h.socks c k hk).listed⟩
  obtain ⟨hsock', hsub⟩ := sockInv_enter hsock sessionId shadow
  refine h.update hk (Nat.le_succ _) hsock' rfl (fun hdown => ⟨hdown, hsub⟩) ?_ hi ?_ ?_
  · intro u hu
    cases shadow with
    | true => cases hu
    | false => cases hu; trivial
  · intro x hc hx
    cases shadow with
    | true => exact .inl ⟨hc, hx⟩
    | false =>
      rcases List.mem_cons.1 hx with rfl | hx
      · exact .inr ⟨_, rfl, rfl⟩
      · exact .inl ⟨hc, hx⟩
  · intro x hc hx
    refine .inl ⟨hc, ?_⟩
    cases shadow with
    | true => exact hx
    | false => exact List.mem_cons_of_mem _ hx

theorem setFlags_inv {s : State} (h : Inv s) {i c : Nat} (hi : Idle s i) {k : Sock}
    (hk : s.sockets.get c = some k) (teaching flag : Bool) {t : Option Task}
    (ht : ∀ u ∈ t, u.adds = none ∧ ∀ s', TaskInv s' u) :
    Inv ((s.setSock c { k with teaching := teaching, shadow := flag }).goto i t) := by
  refine h.update hk (Nat.le_refl _) ⟨(h.socks c k hk).ordered, (h.socks c k hk).numbered,
    (h.socks c k hk).listed⟩ rfl (fun hdown => ⟨hdown, fun _ hp => hp⟩) (fun u hu => (ht u hu).2 _) hi
    (fun x hc hx => .inl ⟨hc, hx⟩) (fun x hc hx => .inl ⟨hc, hx⟩)

theorem onSession_inv {s : State} (h : Inv s) {i c : Nat} (hi : Idle s i) {k : Sock}
    (hk : s.sockets.get c = some k) (sessionId : SessionId) (teach : Bool) (row : Option LiveSession) :
    Inv (onSession s i c k sessionId teach row) := by
  unfold onSession
  cases row with
  | none => exact goto_idle h hi (by intro u hu; cases hu)
  | some session =>
    dsimp only
    split
    · exact goto_idle h hi (by intro u hu; cases hu)
    · split
      · exact setFlags_inv h hi hk _ _ (by intro u hu; cases hu)
      · exact enter_inv h hi hk _ _ sessionId _
      · refine setFlags_inv h hi hk _ _ ?_
        intro u hu
        cases hu
        exact ⟨rfl, fun _ => trivial⟩

theorem leave_inv {s : State} (h : Inv s) {i c : Nat} (hi : Idle s i) {k : Sock}
    (hk : s.sockets.get c = some k) (hup : k.connected = true) (sessionId : SessionId)
    (hok : k.user.recorder = none → k.shadow = true → sessionId ∈ k.visible →
      ShowsElsewhere s c sessionId k.user.sub) : Inv (leave s i c k sessionId) := by
  unfold leave
  split
  · exact h
  · rename_i hrec
    have hrec' : k.user.recorder = none := by simpa using hrec
    refine h.update hk (Nat.le_refl _) (sockInv_leave (h.socks c k hk) sessionId) rfl
      (fun hdown => by rw [hup] at hdown; cases hdown) ?_ hi ?_ ?_
    · intro u hu
      split at hu
      · cases hu
      · cases hu; trivial
    · intro x hc hx
      exact .inl ⟨hc, (List.mem_filter.1 hx).1⟩
    · intro x hc hx
      by_cases hxs : x = sessionId
      · subst hxs
        right
        by_cases hflag : k.shadow = true
        · exact .inl (hok hrec' hflag hx)
        · refine .inr ⟨.leaveFetch c k.user.sub x (k.visible.contains x), ?_, ?_, rfl, rfl⟩
          · rw [if_neg (show ¬(k.leave x).shadow = true from hflag)]
            rfl
          · simpa using hx
      · exact .inl ⟨hc, List.mem_filter.2 ⟨hx, by simpa using hxs⟩⟩

theorem disconnect_inv {s : State} (h : Inv s) {i c : Nat} (hi : Idle s i) {k : Sock}
    (hk : s.sockets.get c = some k) (hup : k.connected = true)
    (hok : k.shadow = true → ∀ x ∈ k.visible, ShowsElsewhere s c x k.user.sub) :
    Inv (disconnect s i c k) := by
  have hsock := sockInv_drop (h.socks c k hk)
  have hahead : Ahead (s.setSock c k.drop) c k.drop.user.sub 0 k.visible := by
    refine ⟨k.drop, Pool.get_put_self .., rfl, rfl, fun x hx => ?_⟩
    obtain ⟨n, hn⟩ := (h.socks c k hk).listed x hx
    exact ⟨n, Nat.zero_le n, hn⟩
  obtain ⟨hinv, hadds, hnone⟩ := dropLoop_spec (s := s.setSock c k.drop) hsock
    (Pool.get_put_self ..) hahead
  refine h.update hk (Nat.le_refl _) hsock rfl (fun hdown => by rw [hup] at hdown; cases hdown)
    (fun u hu => (hinv u hu).1) hi (fun x hc hx => by cases hx) ?_
  intro x _ hx
  right
  cases hloop : dropLoop c k.drop 0 k.visible with
  | none =>
    rcases hnone hloop with hflag | hnil
    · exact .inl (hok hflag x hx)
    · rw [hnil] at hx; cases hx
  | some t => exact .inr ⟨t, rfl, (hinv t hloop).2 x hx⟩

/-- The loop goes on after the entries of the sessions it no longer owes are settled. -/
theorem goto_dropLoop {s : State} (h : Inv s) {i c cursor : Nat} {k : Sock} {owed : List SessionId}
    {t₀ : Task} (ht₀ : s.tasks.get i = some t₀) (hk : s.sockets.get c = some k)
    (hahead : Ahead s c k.user.sub cursor owed) (hadds : t₀.adds = none)
    (howes : ∀ x u, t₀.Owes x u → u = k.user.sub ∧ (x ∈ owed ∨ Shows s x u))
    (hflag : k.shadow = true → ∀ x ∈ owed, Shows s x k.user.sub) :
    Inv (s.goto i (dropLoop c k cursor owed)) := by
  obtain ⟨hinv, -, hnone⟩ := dropLoop_spec (h.socks c k hk) hk hahead
  refine h.goto (fun u hu => (hinv u hu).1) ?_ ?_
  · intro t ht x u ha
    rw [ht₀] at ht
    cases ht
    rw [hadds] at ha
    cases ha
  · intro t ht x u ho
    rw [ht₀] at ht
    cases ht
    obtain ⟨rfl, hx | hs⟩ := howes x u ho
    · cases hloop : dropLoop c k cursor owed with
      | none =>
        rcases hnone hloop with hf | hnil
        · exact .inr fun _ => hflag hf x hx
        · rw [hnil] at hx; cases hx
      | some t₁ => exact .inl ⟨t₁, rfl, (hinv t₁ hloop).2 x hx⟩
    · exact .inr fun _ => hs

theorem resume_inv {s s' : State} (h : Inv s) {i : Nat} {t : Task} {k : Sock}
    (ht : s.tasks.get i = some t) (hk : s.sockets.get t.socket = some k) (hok : TaskOk s t)
    (hs : resume s i k t = some s') : Inv s' := by
  have honly : ∀ {P : Task → Prop}, P t → ∀ t₀ ∈ s.tasks.get i, P t₀ := by
    intro P hP t₀ ht₀
    rw [ht] at ht₀
    cases ht₀
    exact hP
  cases t with
  | joinAuth c x teach => cases hs
  | joinSession c x teach => cases hs
  | joinEnrolled c x => cases hs
  | joinPresence c x r =>
    cases hs
    refine (h.addPresence (x := x) (r := r) hok).goto (by intro u hu; cases hu) ?_ ?_
    · refine honly (fun x' u ha => ?_)
      cases ha
      exact present_add.2 (.inr ⟨rfl, rfl⟩)
    · exact honly (fun x' u ho => by cases ho)
  | leaveFetch c u x visible =>
    cases hs
    by_cases hstill : s.userStillInRoom x u c = true
    · rw [if_pos hstill]
      refine h.goto (by intro v hv; cases hv) (honly (fun x' u' ha => by cases ha)) (honly ?_)
      rintro x' u' ⟨hv, rfl, rfl⟩
      exact .inr fun _ => hok hv hstill
    · rw [if_neg hstill]
      refine h.goto (by intro v hv; cases hv; trivial) (honly (fun x' u' ha => by cases ha)) (honly ?_)
      intro x' u' ho
      exact .inl ⟨_, rfl, ho⟩
  | leaveRemove c u x visible =>
    cases hs
    refine (h.removePresence hok).goto (by intro v hv; cases hv) (honly (fun x' u' ha => by cases ha))
      (honly ?_)
    rintro x' u' ⟨-, rfl, rfl⟩
    exact .inr fun hp => absurd ⟨rfl, rfl⟩ (present_remove.1 hp).2
  | dropFetch c u cursor x owed =>
    cases hs
    have hahead : Ahead s c u cursor (owed.filter (· != x)) := h.tasks i _ ht
    have hsub : k.user.sub = u := by
      obtain ⟨k', hk', hu, -⟩ := hahead
      rw [Option.some.inj (hk.symm.trans hk')]
      exact hu
    by_cases hstill : s.userStillInRoom x u c = true
    · rw [if_pos hstill]
      obtain ⟨hshow, hflag⟩ := hok hstill
      subst hsub
      refine goto_dropLoop h ht hk hahead rfl ?_ ?_
      · rintro x' u' ⟨hx', rfl⟩
        refine ⟨rfl, ?_⟩
        by_cases hxx : x' = x
        · subst hxx
          exact .inr (hshow hx')
        · exact .inl (List.mem_filter.2 ⟨hx', by simpa using hxx⟩)
      · intro hf x' hx'
        refine hflag ?_ x' (List.mem_filter.1 hx').1
        unfold flagged
        rw [show s.sockets.get c = some k from hk]
        exact hf
    · rw [if_neg hstill]
      refine h.goto (by intro v hv; cases hv; exact hahead) (honly (fun x' u' ha => by cases ha))
        (honly ?_)
      intro x' u' ho
      exact .inl ⟨_, rfl, ho⟩
  | dropRemove c u cursor x owed =>
    cases hs
    have hahead : Ahead s c u cursor (owed.filter (· != x)) := h.tasks i _ ht
    refine (h.removePresence hok).goto (by intro v hv; cases hv; exact hahead)
      (honly (fun x' u' ha => by cases ha)) (honly ?_)
    rintro x' u' ⟨hx', rfl⟩
    by_cases hxx : x' = x
    · subst hxx
      exact .inr fun hp => absurd ⟨rfl, rfl⟩ (present_remove.1 hp).2
    · exact .inl ⟨_, rfl, List.mem_filter.2 ⟨hx', by simpa using hxx⟩, rfl⟩
  | dropNext c u cursor owed =>
    cases hs
    have hahead : Ahead s c u cursor owed := h.tasks i _ ht
    obtain rfl : k.user.sub = u := by
      obtain ⟨k', hk', hu, -⟩ := hahead
      rw [Option.some.inj (hk.symm.trans hk')]
      exact hu
    refine goto_dropLoop h ht hk hahead rfl ?_ ?_
    · rintro x' u' ⟨hx', rfl⟩
      exact ⟨rfl, .inl hx'⟩
    · intro hf
      refine hok ?_
      unfold flagged
      rw [show s.sockets.get c = some k from hk]
      exact hf

theorem step_inv {s s' : State} {e : Event} (h : Inv s) (hok : Plain s e) (hs : step s e = some s') :
    Inv s' := by
  cases e with
  | connect c user =>
    unfold step at hs
    simp only [Option.ite_none_right_eq_some, Option.some.injEq] at hs
    obtain ⟨⟨hc, -⟩, rfl⟩ := hs
    exact h.connect hc user
  | join i c x teach =>
    unfold step at hs
    simp only [Option.ite_none_right_eq_some, Option.some.injEq] at hs
    obtain ⟨⟨hi, -⟩, rfl⟩ := hs
    exact goto_idle h (by intro t ht; rw [hi] at ht; cases ht) (by intro u hu; cases hu; trivial)
  | leave i c x =>
    unfold step at hs
    simp only [Option.ite_none_right_eq_some, Option.map_eq_some_iff, Option.filter_eq_some_iff] at hs
    obtain ⟨hi, k, ⟨hk, hup⟩, rfl⟩ := hs
    exact leave_inv h (by intro t ht; rw [hi] at ht; cases ht) hk hup x (hok k hk)
  | disconnect i c =>
    unfold step at hs
    simp only [Option.ite_none_right_eq_some, Option.map_eq_some_iff, Option.filter_eq_some_iff] at hs
    obtain ⟨hi, k, ⟨hk, hup⟩, rfl⟩ := hs
    exact disconnect_inv h (by intro t ht; rw [hi] at ht; cases ht) hk hup (hok k hk)
  | authReady i permitted =>
    unfold step at hs
    dsimp only at hs
    split at hs
    · rename_i c x teach ht
      cases hs
      refine goto_idle h (by intro t ht'; rw [ht] at ht'; cases ht'; exact ⟨rfl, fun _ _ ho => ho⟩) ?_
      intro u hu
      cases permitted with
      | true => cases hu; trivial
      | false => cases hu
    · cases hs
  | session i row =>
    unfold step at hs
    dsimp only at hs
    split at hs
    · rename_i c x teach ht
      obtain ⟨k, hk, rfl⟩ := Option.map_eq_some_iff.1 hs
      exact onSession_inv h (by intro t ht'; rw [ht] at ht'; cases ht'; exact ⟨rfl, fun _ _ ho => ho⟩)
        hk x teach row
    · cases hs
  | enrolled i found =>
    unfold step at hs
    dsimp only at hs
    split at hs
    · rename_i c x ht
      obtain ⟨k, hk, rfl⟩ := Option.map_eq_some_iff.1 hs
      have hi : Idle s i := by
        intro t ht'; rw [ht] at ht'; cases ht'; exact ⟨rfl, fun _ _ ho => ho⟩
      cases found with
      | true => exact enter_inv h hi hk k.teaching k.shadow x false
      | false => exact goto_idle h hi (by intro u hu; cases hu)
    · cases hs
  | resume i =>
    obtain ⟨t, ht, hs⟩ := Option.bind_eq_some_iff.1 hs
    obtain ⟨k, hk, hs⟩ := Option.bind_eq_some_iff.1 hs
    exact resume_inv h ht hk (hok t ht) hs

/-! ## Every run -/

namespace Example

def teacher : JwtPayload := ⟨"t", .instructor, "Teacher", some "org", none, none⟩
def camera : JwtPayload := { teacher with recorder := some ⟨"s1", "rec"⟩ }
def admin : JwtPayload := ⟨"a", .orgAdmin, "Admin", some "org", none, none⟩
def student : JwtPayload := ⟨"b", .student, "Bilal", some "org", none, none⟩

def session (id : SessionId) (org : OrganizationId) : LiveSession :=
  ⟨id, .live, ⟨"course", some "t", some org, none⟩⟩

/-- A join by socket `c` as task `i`, up to the presence entry of a visible one. -/
def joins (i c : Nat) (row : LiveSession) (teach : Bool) : List Event :=
  [.join i c row.id teach, .authReady i true, .session i (some row)]

/-- The instructor leaves while a recorder films. -/
def filmed : List Event :=
  [.connect 0 teacher] ++ joins 0 0 (session "s1" "org") false ++ [.resume 0, .connect 1 camera] ++
    joins 1 1 (session "s1" "org") false ++ [.leave 2 0 "s1", .resume 2]

/-- A teaching admin is refused in another organization's session, and is disconnected. -/
def strayed : List Event :=
  [.connect 0 admin] ++ joins 0 0 (session "s1" "org") true ++ [.resume 0] ++
    joins 1 0 (session "s2" "elsewhere") false ++ [.disconnect 2 0]

/-- The instructor has two tabs and closes one; a student comes and is disconnected. -/
def tabs : List Event :=
  [.connect 0 teacher, .connect 1 teacher, .connect 2 student] ++
    joins 0 0 (session "s1" "org") false ++ joins 1 1 (session "s1" "org") false ++
    [.resume 1, .resume 0] ++ joins 2 2 (session "s1" "org") false ++ [.enrolled 2 true, .resume 2] ++
    [.leave 3 0 "s1", .disconnect 4 2, .resume 3, .resume 4, .resume 4, .resume 4]

/-- Whether a session at rest lists a user, and whether a socket shows the user. -/
def listed (sessionId : SessionId) (userId : UserId) (s : State) : Bool × Bool × Bool :=
  (s.tasks.entries.isEmpty, decide (Present s sessionId userId), decide (Shows s sessionId userId))

end Example

open Example in
example : ((run step init strayed).map (listed "s1" "a")) = some (true, true, false) := by decide

end Livetich.Room.Membership
