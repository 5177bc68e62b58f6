/-
Live Tajweed annotations of one session: `setTajweedTemporary`, `clearTajweedTemporary` and
`listTajweedTemporary` as tasks that run from one Redis call to the next, over the hash
`room:<id>:tajweed`, whose fields are annotation ids.

`setTajweedTemporary` reads whether there is room before it writes, and `listTajweedTemporary`
deletes by id what it read some calls ago: neither read need hold any more when its write runs.
-/
import Livetich.Tajweed.Model
import Livetich.Lib.Table
import Livetich.Lib.TransSys

namespace Livetich.Tajweed.Live

open TransSys
open Livetich.Lib (Table)

/-! ## Data -/

structure TajweedTemporaryAnnotation where
  id : AnnotationId
  surahNumber : Nat
  ayahNumber : Nat
  parts : List Part
  rule : String
  customLabel : Option String
  style : TajweedAnnotationStyle
  color : Option String
  note : Option String
  /-- In milliseconds, as `Date.parse` reads it. -/
  expiresAt : Option Nat
  deriving DecidableEq

/-- `annotation.expiresAt && Date.parse(annotation.expiresAt) <= now`. -/
def TajweedTemporaryAnnotation.expired (a : TajweedTemporaryAnnotation) (now : Nat) : Bool := a.expiresAt.any (· ≤ now)

abbrev Hash := Table AnnotationId TajweedTemporaryAnnotation

namespace Hash

def hexists (h : Hash) (id : AnnotationId) : Bool := (h.get id).isSome

def hlen (h : Hash) : Nat := h.entries.length

def hset (h : Hash) (a : TajweedTemporaryAnnotation) : Hash := (h.modify a.id fun _ => a).insert a.id a

def hdel (h : Hash) (ids : List AnnotationId) : Hash := h.filter fun id _ => !ids.contains id

end Hash

/-- A call in flight, by the Redis call it makes next. -/
inductive Task
  | hexists ( annotation : TajweedTemporaryAnnotation)
  | hlen ( annotation : TajweedTemporaryAnnotation)
  | hset ( annotation : TajweedTemporaryAnnotation)
  | expire
  /-- `clearTajweedTemporary` of one id. -/
  | hdel (id : AnnotationId)
  | del
  | hgetall
  /-- `listTajweedTemporary` goes on with what it has read. -/
  | judge (raw : List (AnnotationId × TajweedTemporaryAnnotation))
  /-- The ids it found expired are deleted next; `now` is when it looked. -/
  | sweep (live : List TajweedTemporaryAnnotation) (expired : List AnnotationId) (now : Nat)

structure State where
  now : Nat
  hash : Hash
  /-- When Redis drops the key. -/
  dropsAt : Option Nat
  tasks : Pool Task
  /-- What `listTajweedTemporary` has returned, with the time it looked at; no handler reads this. -/
  returned : List (List TajweedTemporaryAnnotation × Nat)
  /-- What it has removed, and when; no handler reads this. -/
  removed : List ( TajweedTemporaryAnnotation × Nat)

def init (now : Nat) : State := ⟨now, Table.empty, none, Pool.empty, [], []⟩

def ttl : Nat := 60 * 60 * 12

def tajweedLiveMax : Nat := 50

namespace State

/-- Task `i` goes on as `t`, or ends. -/
def goto (s : State) (i : Nat) (t : Option Task) : State := { s with tasks := s.tasks.put i t }

/-- Fields are deleted; a hash without fields is no key, and loses its time to live. -/
def setHash (s : State) (hash : Hash) : State :=
  { s with hash := hash, dropsAt := if hash.hlen = 0 then none else s.dropsAt }

/-- Time passes, and a key past its time is gone. -/
def tick (s : State) (ms : Nat) : State :=
  let now := s.now + ms
  if s.dropsAt.any (· ≤ now) then { s with now := now, hash := Table.empty, dropsAt := none } else { s with now := now }

/-- `listTajweedTemporary` returns what it kept. -/
def return_ (s : State) (live : List TajweedTemporaryAnnotation) (now : Nat) : State :=
  { s with returned := (live, now) :: s.returned }

end State

/-! ## Steps -/

/-- The loop of `listTajweedTemporary`. -/
def judge (now : Nat) (raw : List (AnnotationId × TajweedTemporaryAnnotation)) :
    List TajweedTemporaryAnnotation × List AnnotationId :=
  ((raw.filter fun e => !e.2.expired now).map (·.2), (raw.filter fun e => e.2.expired now).map (·.1))

/-- What a sweep of these ids removes. -/
def swept (s : State) (expired : List AnnotationId) : List ( TajweedTemporaryAnnotation × Nat) :=
  expired.filterMap fun id => (s.hash.get id).map (·, s.now)

/-- The next Redis call of task `t`, numbered `i`, and the code after it. -/
def resume (s : State) (i : Nat) : Task → State
  | .hexists a => s.goto i (if s.hash.hexists a.id then some (.hset a) else some (.hlen a))
  | .hlen a => s.goto i (if s.hash.hlen ≥ tajweedLiveMax then none else some (.hset a))
  | .hset a => { s with hash := s.hash.hset a }.goto i (some .expire)
  | .expire => { s with dropsAt := if s.hash.hlen = 0 then none else some (s.now + ttl * 1000) }.goto i none
  | .hdel id => (s.setHash (s.hash.hdel [id])).goto i none
  | .del => (s.setHash Table.empty).goto i none
  | .hgetall => s.goto i (some (.judge s.hash.entries))
  | .judge raw =>
    let (live, expired) := judge s.now raw
    if expired.isEmpty then (s.return_ live s.now).goto i none
    else s.goto i (some (.sweep live expired s.now))
  | .sweep live expired now =>
    ({ s.setHash (s.hash.hdel expired) with removed := swept s expired ++ s.removed }.return_ live now).goto i none

inductive Event
  | tick (ms : Nat)
  | set (i : Nat) ( annotation : TajweedTemporaryAnnotation)
  | clear (i : Nat) (id : Option AnnotationId)
  | list (i : Nat)
  | resume (i : Nat)
  /-- The connection of task `i` is lost: its next call is not made, or its last was not answered. -/
  | drop (i : Nat)

/-- A call starts under a number not in use. -/
def start (s : State) (i : Nat) (t : Task) : Option State :=
  if s.tasks.get i = none then some (s.goto i (some t)) else none

def step (s : State) : Event → Option State
  | .tick ms => some (s.tick ms)
  | .set i a => start s i (.hexists a)
  | .clear i id => start s i (match id.filter (· != "") with
    | some id => .hdel id
    | none => .del)
  | .list i => start s i .hgetall
  | .resume i => (s.tasks.get i).map (resume s i)
  | .drop i => some (s.goto i none)

/-! ## The property and the condition -/

/-- The ceiling holds; what a list returned had not run out when it looked, and what it removed had. -/
structure Sound (s : State) : Prop where
  ceiling : s.hash.hlen ≤ tajweedLiveMax
  returned : ∀ r ∈ s.returned, ∀ a ∈ r.1, a.expired r.2 = false
  removed : ∀ r ∈ s.removed, r.1.expired r.2 = true

/-- What a write was decided on still holds when it runs: there is room for the annotation, and what
is stored under the ids of a sweep has run out. -/
def timely (s : State) : Event → Bool
  | .resume i => match s.tasks.get i with
    | some (.hset a) => s.hash.hexists a.id || s.hash.hlen < tajweedLiveMax
    | some (.sweep _ expired _) => expired.all fun id => (s.hash.get id).all (·.expired s.now)
    | _ => true
  | _ => true

/-! ## The hash -/

namespace Hash

@[simp] theorem hlen_empty : hlen Table.empty = 0 := rfl

theorem hlen_hset (h : Hash) (a : TajweedTemporaryAnnotation) :
    (h.hset a).hlen = if h.hexists a.id then h.hlen else h.hlen + 1 := by
  unfold hset hexists hlen
  cases ha : h.get a.id with
  | none =>
    have hnone : (h.modify a.id fun _ => a).get a.id = none := by rw [Table.get_modify_self, ha]; rfl
    rw [Table.entries_insert hnone, Table.entries_modify]
    simp
  | some b =>
    have hsome : (h.modify a.id fun _ => a).get a.id = some a := by rw [Table.get_modify_self, ha]; rfl
    have hmem : a.id ∈ (h.modify a.id fun _ => a).entries.map (·.1) := Table.mem_keys.2 ⟨a, hsome⟩
    unfold Table.insert
    rw [dif_pos hmem, Table.entries_modify, List.length_map]
    rfl

theorem hlen_hdel (h : Hash) (ids : List AnnotationId) : (h.hdel ids).hlen ≤ h.hlen := List.length_filter_le ..

end Hash

/-! ## What a step does -/

/-- What a sweep will return had not run out when its list looked. -/
def Kept (tasks : Pool Task) : Prop :=
  ∀ i live expired now, tasks.get i = some (.sweep live expired now) → ∀ a ∈ live, a.expired now = false

theorem Kept.put {tasks : Pool Task} (h : Kept tasks) (i : Nat) {t : Option Task}
    (ht : ∀ live expired now, t = some (.sweep live expired now) → ∀ a ∈ live, a.expired now = false) :
    Kept (tasks.put i t) := by
  intro j live expired now hj
  rcases Pool.get_put_cases hj with ⟨-, htask⟩ | ⟨-, htask⟩
  · exact ht live expired now htask
  · exact h j live expired now htask

theorem judge_live {now : Nat} {raw : List (AnnotationId × TajweedTemporaryAnnotation)}
    {a : TajweedTemporaryAnnotation} (h : a ∈ (judge now raw).1) : a.expired now = false := by
  obtain ⟨e, he, rfl⟩ := List.mem_map.1 h
  simpa using (List.mem_filter.1 he).2

/-- Where the hash does not grow and nothing is returned or removed, nothing is broken. -/
theorem Sound.frame {s s' : State} (h : Sound s) (hhash : s'.hash.hlen ≤ s.hash.hlen)
    (hreturned : s'.returned = s.returned) (hremoved : s'.removed = s.removed) : Sound s' where
  ceiling := hhash.trans h.ceiling
  returned := by rw [hreturned]; exact h.returned
  removed := by rw [hremoved]; exact h.removed

theorem Sound.tick {s : State} (h : Sound s) (ms : Nat) : Sound (s.tick ms) := by
  unfold State.tick
  dsimp only
  split
  · exact h.frame (Nat.zero_le _) rfl rfl
  · exact h.frame le_rfl rfl rfl

/-- What a list keeps may be returned. -/
theorem Sound.returns {s : State} (h : Sound s) {live : List TajweedTemporaryAnnotation} {now : Nat}
    (hlive : ∀ a ∈ live, a.expired now = false) : Sound (s.return_ live now) where
  ceiling := h.ceiling
  returned r hr := by
    rcases List.mem_cons.1 hr with rfl | hr
    · exact hlive
    · exact h.returned r hr
  removed := h.removed

/-- A write keeps the ceiling just when its annotation is there or there is room for it. -/
theorem sound_hset {s : State} (h : Sound s) (i : Nat) (a : TajweedTemporaryAnnotation) :
    Sound (resume s i (.hset a)) ↔ (s.hash.hexists a.id || s.hash.hlen < tajweedLiveMax) = true := by
  rw [Bool.or_eq_true, decide_eq_true_eq]
  have hlen := Hash.hlen_hset s.hash a
  have hceiling := h.ceiling
  constructor
  · intro hs
    have hafter : (s.hash.hset a).hlen ≤ tajweedLiveMax := hs.ceiling
    by_cases hexists : s.hash.hexists a.id = true
    · exact .inl hexists
    · rw [if_neg hexists] at hlen
      exact .inr (by omega)
  · intro hroom
    refine ⟨?_, h.returned, h.removed⟩
    show (s.hash.hset a).hlen ≤ tajweedLiveMax
    rcases hroom with hexists | hroom
    · rw [if_pos hexists] at hlen
      omega
    · split at hlen <;> omega

/-- A sweep removes what has run out just when nothing else is stored under its ids. -/
theorem sound_sweep {s : State} (h : Sound s) (i : Nat) {live : List TajweedTemporaryAnnotation}
    (expired : List AnnotationId) {now : Nat} (hlive : ∀ a ∈ live, a.expired now = false) :
    Sound (resume s i (.sweep live expired now)) ↔
      (expired.all fun id => (s.hash.get id).all (·.expired s.now)) = true := by
  rw [List.all_eq_true]
  have hswept : (∀ r ∈ swept s expired, r.1.expired r.2 = true) ↔
      ∀ id ∈ expired, (s.hash.get id).all (·.expired s.now) = true := by
    unfold swept
    constructor
    · intro hall id hid
      rw [Option.all_eq_true]
      intro a ha
      exact hall (a, s.now) (List.mem_filterMap.2 ⟨id, hid, by rw [ha]; rfl⟩)
    · intro hall r hr
      obtain ⟨id, hid, hmap⟩ := List.mem_filterMap.1 hr
      obtain ⟨a, ha, rfl⟩ := Option.map_eq_some_iff.1 hmap
      exact (Option.all_eq_true _ _).1 (hall id hid) a ha
  rw [← hswept]
  constructor
  · intro hs r hr
    exact hs.removed r (List.mem_append_left _ hr)
  · intro hall
    have hframe : Sound { s.setHash (s.hash.hdel expired) with removed := swept s expired ++ s.removed } := by
      refine ⟨(Hash.hlen_hdel ..).trans h.ceiling, h.returned, fun r hr => ?_⟩
      rcases List.mem_append.1 hr with hr | hr
      · exact hall r hr
      · exact h.removed r hr
    exact (hframe.returns hlive).frame le_rfl rfl rfl

/-- A call that goes on keeps what is sound just when what it was decided on still holds. -/
theorem sound_resume {s : State} (hk : Kept s.tasks) (h : Sound s) {i : Nat} {t : Task} (ht : s.tasks.get i = some t) :
    Kept (resume s i t).tasks ∧ (Sound (resume s i t) ↔ timely s (.resume i) = true) := by
  simp only [timely, ht]
  cases t with
  | hexists a =>
    refine ⟨hk.put i fun _ _ _ hs => ?_, fun _ => rfl, fun _ => h.frame le_rfl rfl rfl⟩
    split at hs <;> cases hs
  | hlen a =>
    refine ⟨hk.put i fun _ _ _ hs => ?_, fun _ => rfl, fun _ => h.frame le_rfl rfl rfl⟩
    split at hs <;> cases hs
  | hset a => exact ⟨hk.put i fun _ _ _ hs => (by cases hs), sound_hset h i a⟩
  | expire => exact ⟨hk.put i fun _ _ _ hs => (by cases hs), fun _ => rfl, fun _ => h.frame le_rfl rfl rfl⟩
  | hdel id =>
    exact ⟨hk.put i fun _ _ _ hs => (by cases hs), fun _ => rfl, fun _ => h.frame (Hash.hlen_hdel ..) rfl rfl⟩
  | del =>
    exact ⟨hk.put i fun _ _ _ hs => (by cases hs), fun _ => rfl, fun _ => h.frame (Nat.zero_le _) rfl rfl⟩
  | hgetall => exact ⟨hk.put i fun _ _ _ hs => (by cases hs), fun _ => rfl, fun _ => h.frame le_rfl rfl rfl⟩
  | judge raw =>
    unfold resume
    dsimp only
    split
    · refine ⟨hk.put i fun _ _ _ hs => (by cases hs), fun _ => rfl, fun _ => ?_⟩
      exact (h.returns fun a ha => judge_live ha).frame le_rfl rfl rfl
    · refine ⟨hk.put i fun _ _ _ hs => ?_, fun _ => rfl, fun _ => h.frame le_rfl rfl rfl⟩
      cases hs
      exact fun a ha => judge_live ha
  | sweep live expired now =>
    exact ⟨hk.put i fun _ _ _ hs => (by cases hs), sound_sweep h i expired (hk i live expired now ht)⟩

theorem start_spec {s s' : State} {i : Nat} {t : Task} (h : start s i t = some s') : s' = s.goto i (some t) := by
  unfold start at h
  split at h
  · exact (Option.some.inj h).symm
  · cases h

theorem sound_step {s s' : State} {e : Event} (hk : Kept s.tasks) (h : Sound s) (hs : step s e = some s') :
    Kept s'.tasks ∧ (Sound s' ↔ timely s e = true) := by
  cases e with
  | tick ms =>
    cases hs
    have htasks : (s.tick ms).tasks = s.tasks := by
      unfold State.tick
      dsimp only
      split <;> rfl
    exact ⟨by rw [htasks]; exact hk, fun _ => rfl, fun _ => h.tick ms⟩
  | set i a =>
    cases start_spec hs
    exact ⟨hk.put i fun _ _ _ hs => (by cases hs), fun _ => rfl, fun _ => h.frame le_rfl rfl rfl⟩
  | clear i id =>
    cases start_spec hs
    refine ⟨hk.put i fun _ _ _ hs => ?_, fun _ => rfl, fun _ => h.frame le_rfl rfl rfl⟩
    split at hs <;> cases hs
  | list i =>
    cases start_spec hs
    exact ⟨hk.put i fun _ _ _ hs => (by cases hs), fun _ => rfl, fun _ => h.frame le_rfl rfl rfl⟩
  | resume i =>
    obtain ⟨t, ht, rfl⟩ := Option.map_eq_some_iff.1 hs
    exact sound_resume hk h ht
  | drop i =>
    cases hs
    exact ⟨hk.put i fun _ _ _ hs => (by cases hs), fun _ => rfl, fun _ => h.frame le_rfl rfl rfl⟩

theorem kept_init (now : Nat) : Kept (init now).tasks := by
  intro i live expired t h
  cases h

theorem sound_init (now : Nat) : Sound (init now) where
  ceiling := Nat.zero_le _
  returned _ h := by cases h
  removed _ h := by cases h

namespace Example

def marks (id : AnnotationId) (expiresAt : Option Nat) : TajweedTemporaryAnnotation :=
  ⟨id, 113, 3, [⟨113, 3, some 0, none⟩], "nun.ikhfa_haqiqi", none, .highlight, none, none, expiresAt⟩

/-- The four Redis calls of `setTajweedTemporary` for a new annotation. -/
def sets (i : Nat) (a : TajweedTemporaryAnnotation) : List Event :=
  [.set i a, .resume i, .resume i, .resume i, .resume i]

/-- An annotation runs out; one that stays is set, and then a list sweeps. -/
def orderly : List Event :=
  sets 0 (marks "live-0001" (some 5)) ++ [.tick 10] ++ sets 0 (marks "live-0002" none) ++
    [.list 1, .resume 1, .resume 1, .resume 1]

/-- The annotation that ran out is set again while a list has yet to delete it. -/
def renewed : List Event :=
  sets 0 (marks "live-0001" (some 5)) ++ [.tick 10, .list 1, .resume 1, .resume 1] ++
    [.set 2 (marks "live-0001" (some 100)), .resume 2, .resume 2, .resume 1]

/-- Two hosts both read that one more annotation fits. -/
def crowded : List Event :=
  (List.range 49).flatMap (fun n => sets 0 (marks (String.ofList (List.replicate (n + 8) 'a')) none)) ++
    [.set 0 (marks "live-0001" none), .set 1 (marks "live-0002" none), .resume 0, .resume 0, .resume 1, .resume 1,
      .resume 0, .resume 1]

end Example

open Example in
example : ((run step (init 0) crowded).any fun s => s.hash.hlen == 51) = true := by decide +kernel

end Livetich.Tajweed.Live
