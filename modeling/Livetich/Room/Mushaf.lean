/-
The position of the shared mushaf in one session: `onQuranNavigate`, and the seeding of `onJoin` from the last
recitation, as tasks that run from one awaited call to the next. Whether a caller owns the session and whether the
pack is enabled is part of the event. What is emitted is left out.
-/
import Mathlib.Tactic.Linarith
import Livetich.Hifz.Progress
import Livetich.Js.Json
import Livetich.Lib.TransSys

namespace Livetich.Room.Mushaf

open TransSys Livetich.Js Livetich.Hifz
open Livetich.Quran (IsVerse ayahsOf validateRef validateRef_ok one_le_ayahsOf)

/-! ## Positions -/

/-- A position as it is stored. What is not finite is written as null. -/
structure QuranPosition where
  surah : Int
  ayah : Option Int
  deriving DecidableEq

/-- A surah and an ayah that it has. -/
def QuranPosition.OnVerse (pos : QuranPosition) : Prop := ∃ ayah ∈ pos.ayah, IsVerse pos.surah ayah

instance (pos : QuranPosition) : Decidable pos.OnVerse :=
  match h : pos.ayah with
  | none => isFalse (by simp [QuranPosition.OnVerse, h])
  | some ayah => decidable_of_iff (IsVerse pos.surah ayah) (by simp [QuranPosition.OnVerse, h])

/-- What a client sends for a number; a field may be missing. -/
def number (value : Option Json) : Number := (value.map Json.toNumber).getD .nan

/-- `Math.trunc(Number(value) || 1)`. -/
def wholeOr1 (value : Option Json) : Number :=
  mathTrunc (if (number value).isNaN || number value = .ofInt 0 then .ofInt 1 else number value)

/-- `Math.max(1, n)`, as it is stored. -/
def atLeast1 : Number → Option Int
  | .finite q => some (max 1 q.floor)
  | .infinity neg => if neg then some 1 else none
  | .nan => none

/-- `Math.min(114, Math.max(1, …))`. -/
def clampSurah (surah : Option Json) : Int := ((atLeast1 (wholeOr1 surah)).map fun n => min 114 n).getD 114

def clamp (surah ayah : Option Json) : QuranPosition := ⟨clampSurah surah, atLeast1 (wholeOr1 ayah)⟩

example : clamp (some (.str "2")) (some (.num (.finite (7 / 2)))) = ⟨2, some 3⟩ ∧
    clamp (some (.num (.infinity false))) none = ⟨114, some 1⟩ ∧
    clamp none (some (.num (.infinity false))) = ⟨1, none⟩ := by decide +kernel

/-! ## Tasks -/

inductive Task
  | navigateOwner (surah ayah : Option Json)
  | navigatePack (surah ayah : Option Json)
  | navigateSet (surah ayah : Option Json)
  | joinPack
  | joinHas
  | joinAnchor
  | joinSet (pos : QuranPosition)

structure State where
  /-- The recitations of the course. -/
  entries : List Entry
  /-- The key `room:<id>:quran`. -/
  stored : Option QuranPosition
  tasks : Pool Task
  /-- A navigate has stored a position, and the key has not expired since. No handler reads this, nor what follows. -/
  navigated : Bool
  /-- A seeding has replaced such a position. -/
  replaced : Bool

def init : State := ⟨[], none, Pool.empty, false, false⟩

/-- What a read comes to: whether the caller may go on, and the last recitation. -/
structure Reply where
  allowed : Bool
  last : Option Entry

inductive Event
  | navigate (i : Nat) (surah ayah : Option Json)
  /-- A join comes to the mushaf. -/
  | join (i : Nat)
  | resume (i : Nat) (reply : Reply)
  /-- `logEntry` of the Hifz service. -/
  | log (entry : Entry)
  /-- Entries are removed, one or with their course. -/
  | remove (kept : Entry → Bool)
  | expire

namespace State

def goto (s : State) (i : Nat) (t : Option Task) : State := { s with tasks := s.tasks.put i t }

/-- `findFirst` in the descending order of `recordedAt`. -/
def isLast (s : State) : Option Entry → Bool
  | none => s.entries.isEmpty
  | some e => s.entries.contains e && s.entries.all fun e' => e'.recordedAt ≤ e.recordedAt

/-- `lastRecitationAnchor` of the entry found. -/
def anchor (e : Entry) : QuranPosition := ⟨e.surahNumber, some e.ayahEnd⟩

def resume (s : State) (i : Nat) (reply : Reply) : Task → Option State
  | .navigateOwner surah ayah => some (s.goto i (if reply.allowed then some (.navigatePack surah ayah) else none))
  | .navigatePack surah ayah => some (s.goto i (if reply.allowed then some (.navigateSet surah ayah) else none))
  | .navigateSet surah ayah =>
    some { s with stored := some (clamp surah ayah), navigated := true, tasks := s.tasks.put i none }
  | .joinPack => some (s.goto i (if reply.allowed then some .joinHas else none))
  | .joinHas => some (s.goto i (if s.stored.isSome then none else some .joinAnchor))
  | .joinAnchor =>
    if s.isLast reply.last then some (s.goto i (reply.last.map fun e => .joinSet (anchor e))) else none
  | .joinSet pos =>
    some { s with stored := some pos, replaced := s.replaced || s.navigated, tasks := s.tasks.put i none }

end State

def step (s : State) : Event → Option State
  | .navigate i surah ayah =>
    if (s.tasks.get i).isSome then none else some (s.goto i (some (.navigateOwner surah ayah)))
  | .join i => if (s.tasks.get i).isSome then none else some (s.goto i (some .joinPack))
  | .resume i reply => (s.tasks.get i).bind (s.resume i reply)
  | .log entry => match validateRef entry.surahNumber entry.ayahStart entry.ayahEnd with
    | .error _ => some s
    | .ok _ => some { s with entries := entry :: s.entries }
  | .remove kept => some { s with entries := s.entries.filter kept }
  | .expire => some { s with stored := none, navigated := false }

/-! ## What is stored -/

/-- The position is on a verse, and no seeding has replaced one that was navigated to. -/
def Kept (s : State) : Prop := (∀ pos ∈ s.stored, pos.OnVerse) ∧ s.replaced = false

/-- The ayah is a number below the surah's end, or none. -/
def within (surah ayah : Option Json) : Bool :=
  match number ayah with
  | .nan => true
  | .infinity neg => neg
  | .finite q => q < ayahsOf (clampSurah surah) + 1

/-- A navigate names an ayah within the surah it names, and a seeding finds no position that was navigated to. -/
def inBounds (s : State) : Event → Bool
  | .resume i _ => match s.tasks.get i with
    | some (.navigateSet surah ayah) => within surah ayah
    | some (.joinSet _) => !s.navigated
    | _ => true
  | _ => true

theorem clampSurah_range (surah : Option Json) : 1 ≤ clampSurah surah ∧ clampSurah surah ≤ 114 := by
  unfold clampSurah
  cases h : atLeast1 (wholeOr1 surah) with
  | none => exact ⟨by decide, by decide⟩
  | some n =>
    have hn : 1 ≤ n := by
      unfold atLeast1 at h
      split at h
      · cases h
        exact le_max_left _ _
      · split at h
        · cases h
          exact le_rfl
        · cases h
      · cases h
    show 1 ≤ min 114 n ∧ min 114 n ≤ 114
    omega

/-- The clamped position is on a verse if and only if the ayah is within the surah. -/
theorem clamp_onVerse (surah ayah : Option Json) : (clamp surah ayah).OnVerse ↔ within surah ayah = true := by
  have hcount := one_le_ayahsOf (clampSurah_range surah)
  have hpos : ∀ {n : Int}, (QuranPosition.mk (clampSurah surah) (some (max 1 n))).OnVerse ↔
      n ≤ ayahsOf (clampSurah surah) := by
    intro n
    simp only [QuranPosition.OnVerse, Option.mem_some_iff, exists_eq_left', IsVerse]
    omega
  have hint : ∀ n : Int, atLeast1 (mathTrunc (.ofInt n)) = some (max 1 n) := by
    intro n
    simp only [mathTrunc, Number.ofInt, atLeast1, Rat.floor_intCast, Rat.ceil_intCast, ite_self]
  have hone : (QuranPosition.mk (clampSurah surah) (some (max 1 1))).OnVerse := hpos.2 (by omega)
  unfold clamp within wholeOr1
  cases number ayah with
  | nan =>
    show (QuranPosition.mk _ (atLeast1 (mathTrunc (.ofInt 1)))).OnVerse ↔ true = true
    rw [hint]
    exact iff_of_true hone rfl
  | infinity neg =>
    cases neg with
    | true => exact iff_of_true hone rfl
    | false =>
      refine iff_of_false ?_ Bool.false_ne_true
      rintro ⟨n, hn, -⟩
      cases hn
  | finite q =>
    by_cases hzero : q = 0
    · subst hzero
      show (QuranPosition.mk _ (atLeast1 (mathTrunc (.ofInt 1)))).OnVerse ↔ _
      rw [hint]
      refine iff_of_true hone (decide_eq_true ?_)
      have hnonneg : (0 : Rat) ≤ ayahsOf (clampSurah surah) := Nat.cast_nonneg _
      linarith
    · have hne : ¬ Number.finite q = .ofInt 0 := by
        intro h
        exact hzero (Number.finite.inj h)
      have htrunc : atLeast1 (mathTrunc (.finite q)) = some (max 1 (if q < 0 then q.ceil else q.floor)) := by
        simp only [mathTrunc, Number.ofInt, atLeast1, Rat.floor_intCast]
      have hother : ((Number.finite q).isNaN || decide (Number.finite q = .ofInt 0)) = false := by
        simp [Number.isNaN, hne]
      rw [hother, if_neg Bool.false_ne_true, htrunc, hpos]
      show _ ↔ decide (q < ayahsOf (clampSurah surah) + 1) = true
      have hcast : ((ayahsOf (clampSurah surah) : Rat) + 1) = ((ayahsOf (clampSurah surah) + 1 : Int) : Rat) := by
        push_cast
        rfl
      rw [decide_eq_true_eq, hcast]
      split
      · -- toward zero, so not above it
        rename_i hneg
        have hceil : q.ceil ≤ 0 := Rat.ceil_le_iff.2 (by exact_mod_cast hneg.le)
        have hnonneg : (0 : Rat) ≤ ayahsOf (clampSurah surah) := Nat.cast_nonneg _
        refine iff_of_true (by omega) ?_
        rw [← hcast]
        linarith
      · rw [← Rat.floor_lt_iff]
        omega

/-! ## Runs -/

/-- What is recited was checked, and so is what a seeding is about to store. -/
structure Sound (s : State) : Prop where
  entries : ∀ e ∈ s.entries, IsVerse e.surahNumber e.ayahEnd
  seeds : ∀ i pos, s.tasks.get i = some (.joinSet pos) → pos.OnVerse

theorem sound_init : Sound init := ⟨fun _ he => absurd he List.not_mem_nil, fun _ _ h => by cases h⟩

/-- A task that goes on as anything but a seeding's write. -/
theorem Sound.goto {s : State} (hs : Sound s) (i : Nat) {t : Option Task}
    (ht : ∀ pos, t = some (.joinSet pos) → pos.OnVerse) :
    Sound (s.goto i t) := by
  refine ⟨hs.entries, fun j pos hj => ?_⟩
  rcases Pool.get_put_cases hj with ⟨-, hpos⟩ | ⟨-, hother⟩
  · exact ht pos hpos
  · exact hs.seeds j pos hother

theorem anchor_onVerse {e : Entry} (h : IsVerse e.surahNumber e.ayahEnd) : (State.anchor e).OnVerse := ⟨_, rfl, h⟩

theorem isLast_mem {s : State} {e : Entry} (h : s.isLast (some e) = true) : e ∈ s.entries := by
  unfold State.isLast at h
  rw [Bool.and_eq_true, List.contains_iff_mem] at h
  exact h.1

/-- What the next step of a task writes: nothing, a navigated position or a seeded one. -/
theorem resume_writes {s s' : State} {i : Nat} {reply : Reply} {t : Task} (h : s.resume i reply t = some s') :
    s'.entries = s.entries ∧
    ((s'.stored = s.stored ∧ s'.replaced = s.replaced ∧ (∀ surah ayah, t ≠ .navigateSet surah ayah) ∧
        ∀ pos, t ≠ .joinSet pos) ∨
    (∃ surah ayah, t = .navigateSet surah ayah ∧ s'.stored = some (clamp surah ayah) ∧ s'.replaced = s.replaced) ∨
    (∃ pos, t = .joinSet pos ∧ s'.stored = some pos ∧ s'.replaced = (s.replaced || s.navigated))) := by
  cases t with
  | navigateSet surah ayah =>
    cases h
    exact ⟨rfl, .inr (.inl ⟨surah, ayah, rfl, rfl, rfl⟩)⟩
  | joinSet pos =>
    cases h
    exact ⟨rfl, .inr (.inr ⟨pos, rfl, rfl, rfl⟩)⟩
  | joinAnchor =>
    simp only [State.resume] at h
    split at h
    · cases h
      exact ⟨rfl, .inl ⟨rfl, rfl, by simp, by simp⟩⟩
    · cases h
  | navigateOwner surah ayah =>
    cases h
    exact ⟨rfl, .inl ⟨rfl, rfl, by simp, by simp⟩⟩
  | navigatePack surah ayah =>
    cases h
    exact ⟨rfl, .inl ⟨rfl, rfl, by simp, by simp⟩⟩
  | joinPack =>
    cases h
    exact ⟨rfl, .inl ⟨rfl, rfl, by simp, by simp⟩⟩
  | joinHas =>
    cases h
    exact ⟨rfl, .inl ⟨rfl, rfl, by simp, by simp⟩⟩

theorem resume_sound {s s' : State} {i : Nat} {reply : Reply} {t : Task} (hs : Sound s)
    (h : s.resume i reply t = some s') : Sound s' := by
  cases t with
  | joinAnchor =>
    simp only [State.resume] at h
    split at h
    · rename_i hlast
      cases h
      refine hs.goto i fun pos hpos => ?_
      obtain ⟨e, he, hanchor⟩ := Option.map_eq_some_iff.1 hpos
      cases hanchor
      rw [he] at hlast
      exact anchor_onVerse (hs.entries e (isLast_mem hlast))
    · cases h
  | joinHas =>
    cases h
    refine hs.goto i fun pos hpos => ?_
    split at hpos <;> cases hpos
  | joinPack =>
    cases h
    refine hs.goto i fun pos hpos => ?_
    split at hpos <;> cases hpos
  | navigateOwner surah ayah =>
    cases h
    refine hs.goto i fun pos hpos => ?_
    split at hpos <;> cases hpos
  | navigatePack surah ayah =>
    cases h
    refine hs.goto i fun pos hpos => ?_
    split at hpos <;> cases hpos
  | navigateSet surah ayah =>
    cases h
    have hgone := hs.goto i (t := none) fun pos hpos => by cases hpos
    exact ⟨hgone.entries, hgone.seeds⟩
  | joinSet pos =>
    cases h
    have hgone := hs.goto i (t := none) fun pos hpos => by cases hpos
    exact ⟨hgone.entries, hgone.seeds⟩

theorem step_sound {s s' : State} {e : Event} (hs : Sound s) (h : step s e = some s') : Sound s' := by
  cases e with
  | navigate i surah ayah =>
    rw [step] at h
    split at h
    · cases h
    · cases h
      exact hs.goto i fun pos hpos => by cases hpos
  | join i =>
    rw [step] at h
    split at h
    · cases h
    · cases h
      exact hs.goto i fun pos hpos => by cases hpos
  | resume i reply =>
    obtain ⟨t, -, h⟩ := Option.bind_eq_some_iff.1 h
    exact resume_sound hs h
  | log entry =>
    rw [step] at h
    split at h
    · cases h
      exact hs
    · rename_i ref href
      cases h
      obtain ⟨-, hfirst, hle, hlast⟩ := validateRef_ok href
      refine ⟨?_, hs.seeds⟩
      intro e he
      rcases List.mem_cons.1 he with rfl | he
      · exact ⟨by omega, hlast⟩
      · exact hs.entries e he
  | remove kept =>
    cases h
    exact ⟨fun e he => hs.entries e (List.mem_filter.1 he).1, hs.seeds⟩
  | expire =>
    cases h
    exact ⟨hs.entries, hs.seeds⟩

/-- From a state that is right, a step leads to one exactly when it is in bounds. -/
theorem step_kept {s s' : State} {e : Event} (hs : Sound s) (hkept : Kept s) (h : step s e = some s') :
    Kept s' ↔ inBounds s e = true := by
  cases e with
  | resume i reply =>
    obtain ⟨t, ht, h⟩ := Option.bind_eq_some_iff.1 h
    rw [inBounds, ht]
    rcases (resume_writes h).2 with ⟨hstored, hreplaced, hnavigate, hseed⟩ | ⟨surah, ayah, rfl, hstored, hreplaced⟩ |
      ⟨pos, rfl, hstored, hreplaced⟩
    · -- a look-up, which writes nothing
      unfold Kept
      rw [hstored, hreplaced]
      refine iff_of_true hkept ?_
      cases t with
      | navigateSet surah ayah => exact absurd rfl (hnavigate surah ayah)
      | joinSet pos => exact absurd rfl (hseed pos)
      | _ => rfl
    · -- a navigate is clamped to the surahs, not to the ayahs of its surah
      unfold Kept
      rw [hstored, hreplaced]
      simp only [Option.mem_some_iff, forall_eq', clamp_onVerse]
      exact and_iff_left hkept.2
    · -- a seeding writes a recited verse, whatever was stored since it looked
      unfold Kept
      rw [hstored, hreplaced, hkept.2]
      simp only [Option.mem_some_iff, forall_eq', Bool.false_or, Bool.not_eq_true']
      exact and_iff_right (hs.seeds i pos ht)
  | navigate i surah ayah =>
    rw [step] at h
    split at h
    · cases h
    · cases h
      exact iff_of_true hkept rfl
  | join i =>
    rw [step] at h
    split at h
    · cases h
    · cases h
      exact iff_of_true hkept rfl
  | log entry =>
    rw [step] at h
    split at h
    · cases h
      exact iff_of_true hkept rfl
    · cases h
      exact iff_of_true hkept rfl
  | remove kept =>
    cases h
    exact iff_of_true hkept rfl
  | expire =>
    cases h
    exact iff_of_true ⟨fun pos hpos => (by cases hpos), hkept.2⟩ rfl

namespace Example

def yes : Reply := ⟨true, none⟩

/-- The class has recited al-Ikhlas to its third ayah. -/
def recited : Entry := ⟨.newHifz, 112, 1, 3, 0⟩

def opens : List Event := [.log recited, .join 0, .resume 0 yes, .resume 0 yes]

/-- The first to join finds no position, and it is seeded; the instructor goes to 2:255. -/
def seeded : List Event :=
  opens ++ [.resume 0 ⟨true, some recited⟩, .resume 0 yes, .navigate 1 (some (.num (.finite 2))) (some (.str "255")),
    .resume 1 yes, .resume 1 yes, .resume 1 yes]

/-- The instructor goes there while the first to join looks the recitation up. -/
def raced : List Event :=
  opens ++ [.navigate 1 (some (.num (.finite 2))) (some (.str "255")), .resume 1 yes, .resume 1 yes, .resume 1 yes,
    .resume 0 ⟨true, some recited⟩, .resume 0 yes]

/-- Al-Fatihah has 7 ayahs. -/
def beyond : List Event :=
  [.navigate 0 (some (.num (.finite 1))) (some (.num (.finite 300))), .resume 0 yes, .resume 0 yes, .resume 0 yes]

end Example

end Livetich.Room.Mushaf
