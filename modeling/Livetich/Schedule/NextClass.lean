/-
The next class of a schedule. The occurrences are listed by their days, and `resolveJoinWindow` takes the first one
after now, so it finds the next class as long as the instants stand as the days do. The offset of each instant is read
at its wall time taken as UTC; where that offset rises by more than the time between two classes, they change places.
-/
import Mathlib.Data.List.Chain
import Livetich.Schedule.Run

namespace Livetich.Schedule

open Livetich.Js Livetich.Lib

/-! ## What next should be -/

/-- The occurrence that begins soonest after now, or nothing where none begins after now. -/
def IsNext (occs : List Occurrence) (now : Int) : Option Occurrence → Prop
  | none => ∀ o ∈ occs, o.scheduledAt ≤ now
  | some o => o ∈ occs ∧ now < o.scheduledAt ∧
    ∀ o' ∈ occs, now < o'.scheduledAt → o.scheduledAt ≤ o'.scheduledAt

/-- The occurrences are in chronological order, and at every moment the window names the next one. -/
def Chronological (tzdb : String → Option Zone) (s : CourseSchedule) : Prop :=
  ∃ occs, listOccurrences tzdb s = .ok occs ∧ (occs.map (·.scheduledAt)).Pairwise (· < ·) ∧
    ∀ now, ∃ window, resolveJoinWindow tzdb s now = .ok window ∧ IsNext occs now window.next

variable {tzdb : String → Option Zone} {s : CourseSchedule} {start : Int} {weeks : Nat} {general : LocalTime}
  {tz : Zone}

theorem find_isNext {occs : List Occurrence} (hsorted : (occs.map (·.scheduledAt)).Pairwise (· < ·)) (now : Int) :
    IsNext occs now (occs.find? fun o => now < o.scheduledAt) := by
  rw [List.pairwise_map] at hsorted
  cases hfind : occs.find? fun o => now < o.scheduledAt with
  | none =>
    intro o ho
    have := List.find?_eq_none.1 hfind o ho
    simpa using this
  | some o =>
    obtain ⟨hlater, before, after, rfl, hbefore⟩ := List.find?_eq_some_iff_append.1 hfind
    refine ⟨by simp, by simpa using hlater, fun o' ho' hlater' => ?_⟩
    obtain ⟨-, htail, -⟩ := List.pairwise_append.1 hsorted
    rcases List.mem_append.1 ho' with ho' | ho'
    · have := hbefore o' ho'
      simp at this
      omega
    · rcases List.mem_cons.1 ho' with rfl | ho'
      · exact Int.le_refl _
      · exact Int.le_of_lt ((List.pairwise_cons.1 htail).1 o' ho')

theorem Complete.window_next (h : Complete tzdb s start weeks general tz) {occs : List Occurrence}
    (hoccs : listOccurrences tzdb s = .ok occs) (now : Int) :
    ∃ window, resolveJoinWindow tzdb s now = .ok window ∧ window.next = occs.find? fun o => now < o.scheduledAt := by
  obtain ⟨zone, hzone, -, htz⟩ := h.timezone
  have hbind : s.timezone.bind tzdb = some tz := by
    rw [hzone]
    exact htz
  unfold resolveJoinWindow
  rw [hoccs, hbind]
  cases occs with
  | nil => exact ⟨_, rfl, rfl⟩
  | cons o occs => exact ⟨_, rfl, rfl⟩

/-! ## Classes that follow one another -/

/-- The offset read for the second of two classes is more than that read for the first one by less than the time
between them. The first hours of the year 100 are read 1900 years back, and so before anything that follows. -/
def KeepsPlace (tz : Zone) (m m' : Meeting) : Prop :=
  wallYear (tz.toLocal m.wall) = 99 ∨ 1000 * (tz.offset m'.wall - tz.offset m.wall) < m'.wall - m.wall

theorem scheduledAt_lt_iff {m m' : Meeting} (hm : m.Dated) (hm' : m'.Dated) (hlt : m.dt < m'.dt) :
    (occurrence tz m).scheduledAt < (occurrence tz m').scheduledAt ↔ KeepsPlace tz m m' := by
  have hmid := hm.midnight
  have hmid' := hm'.midnight
  have hyear : 100 ≤ wallYear m.wall := by
    rw [hm.wallYear]
    exact hm.year
  have hfrom := Int.le_trans (Civil.dayFromYear_mono hyear) (Civil.yearOfDay_spec (m.wall / DAY_MS)).1
  rw [hm.day] at hfrom
  have hwall : m.dt ≤ m.wall ∧ m'.dt ≤ m'.wall := by
    unfold Meeting.wall
    omega
  have hbound := tz.bounded m.wall
  have hbound' := tz.bounded m'.wall
  -- The later class is on a later day, and by then the local clock is past the turn of the year 100.
  have hyear' : 100 ≤ wallYear (tz.toLocal m'.wall) := by
    have hlocal := tz.toLocal_bounds m'.wall
    apply Civil.le_yearOfDay
    unfold DAY_MS at hmid hmid' hfrom ⊢
    omega
  rw [scheduledAt_eq hm, scheduledAt_eq hm', tzOffsetMs_eq hm'.sec hyear']
  have hnear : 99 ≤ wallYear (tz.toLocal m.wall) := wallYear_near hyear
  rcases (by omega : wallYear (tz.toLocal m.wall) = 99 ∨ 100 ≤ wallYear (tz.toLocal m.wall)) with h99 | h100
  · rw [tzOffsetMs_99 hm.sec h99]
    refine ⟨fun _ => .inl h99, fun _ => ?_⟩
    have hlate : m.wall < m'.wall := by
      have hday := hm.day
      unfold DAY_MS at hmid hmid' hday
      omega
    unfold DAY_MS
    omega
  · rw [tzOffsetMs_eq hm.sec h100]
    unfold KeepsPlace
    omega

/-- The list is chronological exactly when each two classes that follow one another keep their places. -/
theorem chronological_iff (h : Complete tzdb s start weeks general tz) :
    Chronological tzdb s ↔ ((cadenceOf s start weeks general).meetings tz).IsChain (KeepsPlace tz) := by
  have hoccs := h.listOccurrences_eq
  have hsorted : ((((cadenceOf s start weeks general).meetings tz).map (occurrence tz)).map
      (·.scheduledAt)).Pairwise (· < ·) ↔ ((cadenceOf s start weeks general).meetings tz).IsChain (KeepsPlace tz) := by
    rw [← List.isChain_iff_pairwise, List.isChain_map, List.isChain_map, List.isChain_iff_getElem,
      List.isChain_iff_getElem]
    refine forall₂_congr fun i hi => ?_
    have hfirst := meetings_dated (List.getElem_mem (Nat.lt_of_succ_lt hi))
    have hsecond := meetings_dated (List.getElem_mem hi)
    exact scheduledAt_lt_iff hfirst hsecond
      (List.pairwise_iff_getElem.1 (meetings_sorted _ tz) i (i + 1) (Nat.lt_of_succ_lt hi) hi (by omega))
  constructor
  · rintro ⟨occs, hoccs', hpairwise, -⟩
    rw [hoccs] at hoccs'
    cases hoccs'
    exact hsorted.1 hpairwise
  · intro hchain
    refine ⟨_, hoccs, hsorted.2 hchain, fun now => ?_⟩
    obtain ⟨window, hwindow, hnext⟩ := h.window_next hoccs now
    exact ⟨window, hwindow, by rw [hnext]; exact find_isNext (hsorted.2 hchain) now⟩

namespace Example

/-- The Troll station in the spring of 2025: UTC, and two hours more from 30 March, 01:00 UTC. -/
def troll : Zone where
  offset t := if 1743296400000 ≤ t then 7200 else 0
  bounded t := by split <;> decide

def trollZones (name : String) : Option Zone := if name = "Antarctica/Troll" then some troll else none

/-- Saturday 29 March at 23:30 and Sunday 30 March at 01:00. -/
def weekend : CourseSchedule :=
  { startDate := some 1743249600000, durationWeeks := some 1, meetingDays := .arr [.num (.ofInt 6), .num (.ofInt 0)]
    meetingTime := some "01:00", meetingTimesByDay := .obj [("6", .str "23:30")], timezone := some "Antarctica/Troll" }

end Example

open Example in
theorem sundaysMondays_chronological : Chronological zones sundaysMondays := by
  have hcomplete : Complete zones sundaysMondays 1741435200000 2 lateNight newYork :=
    ⟨rfl, rfl, by decide, rfl, "America/New_York", rfl, by decide, rfl⟩
  refine (chronological_iff hcomplete).2 ?_
  have hmeetings : (cadenceOf sundaysMondays 1741435200000 2 lateNight).meetings newYork =
      [⟨1741478400000, ⟨3, 30⟩⟩, ⟨1741564800000, ⟨20, 0⟩⟩, ⟨1742083200000, ⟨3, 30⟩⟩, ⟨1742169600000, ⟨20, 0⟩⟩] := by
    decide +kernel
  rw [hmeetings]
  simp only [List.isChain_cons_cons, List.isChain_singleton, and_true]
  refine ⟨.inr ?_, .inr ?_, .inr ?_⟩ <;> decide +kernel

open Example in
/-- Sunday's class is put half an hour before Saturday's, and at 22:00 the next class is said to be Saturday's. -/
theorem weekend_not_chronological :
    listOccurrences trollZones weekend =
        .ok [⟨"2025-03-29", 1743291000000⟩, ⟨"2025-03-30", 1743289200000⟩] ∧
      (resolveJoinWindow trollZones weekend 1743285600000).map (·.next) =
        .ok (some ⟨"2025-03-29", 1743291000000⟩) ∧
      ¬ Chronological trollZones weekend := by
  have hoccs : listOccurrences trollZones weekend =
      .ok [⟨"2025-03-29", 1743291000000⟩, ⟨"2025-03-30", 1743289200000⟩] := by decide +kernel
  refine ⟨hoccs, by decide +kernel, ?_⟩
  rintro ⟨occs, hoccs', hsorted, -⟩
  rw [hoccs] at hoccs'
  cases hoccs'
  revert hsorted
  decide

end Livetich.Schedule
