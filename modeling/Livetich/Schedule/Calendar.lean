/-
The calendar file against the schedule: reading the emitted event back by the rules of iCalendar
gives the instants of `listOccurrences` when every class is at the general meeting time, as the
zone reads it. The per-day times of the schedule never reach the event.
-/
import Livetich.Schedule.Ics

namespace Livetich.Schedule

open Livetich.Js Livetich.Lib

/-! ## The text of the stamps -/

/-- The characters of a stamp. -/
theorem stamp_chars {d : Civil.Date} (h : 1000 ≤ d.year) (h' : d.year ≤ 9999) {hh mm ss : Nat}
    (hhh : hh < 100) (hmm : mm < 100) (hss : ss < 100) :
    (toString d.year ++ pad d.month ++ pad d.day ++ "T" ++ pad hh ++ pad mm ++ pad ss).toList =
      Ical.stamp d.year.toNat d.month.toNat d.day.toNat hh mm ss := by
  have hm := d.month_pos
  have hd := d.day_pos
  have hsmall := date_small d
  simp only [String.toList_append]
  rw [toString_digits4 h h', pad_chars (by omega) hsmall.1, pad_chars (by omega) hsmall.2,
    pad_chars (by omega) (by omega), pad_chars (by omega) (by omega), pad_chars (by omega) (by omega)]
  rfl

/-- A stamp in UTC spells its instant. -/
theorem parseUtc_utcStamp {t : Int} (hsec : t % 1000 = 0) (h : 1000 ≤ wallYear t)
    (h' : wallYear t ≤ 9999) : Ical.parseUtc (utcStamp t).toList = some t := by
  have hrange : 0 ≤ t % DAY_MS ∧ t % DAY_MS < 86400000 := by
    unfold DAY_MS
    omega
  obtain ⟨hh, hhh⟩ := Int.eq_ofNat_of_zero_le (by omega : 0 ≤ t % DAY_MS / 1000 / 3600)
  obtain ⟨mm, hmm⟩ := Int.eq_ofNat_of_zero_le (by omega : 0 ≤ t % DAY_MS / 1000 % 3600 / 60)
  obtain ⟨ss, hss⟩ := Int.eq_ofNat_of_zero_le (by omega : 0 ≤ t % DAY_MS / 1000 % 60)
  have hy : (Civil.ofDays (t / DAY_MS)).year = wallYear t := rfl
  have hchars : (utcStamp t).toList =
      Ical.stamp (wallYear t).toNat (Civil.ofDays (t / DAY_MS)).month.toNat
        (Civil.ofDays (t / DAY_MS)).day.toNat hh mm ss ++ ['Z'] := by
    unfold utcStamp
    simp only
    rw [hhh, hmm, hss, String.toList_append,
      stamp_chars h h' (by omega) (by omega) (by omega)]
    rfl
  have hsmall := date_small (Civil.ofDays (t / DAY_MS))
  have hday := Civil.toDays_ofDays (t / DAY_MS)
  unfold Ical.parseUtc
  rw [hchars, if_pos List.getLast?_concat, List.dropLast_concat,
    Ical.parseLocal_stamp (by omega) (by omega) (by omega) (by omega) (by omega) (by omega), ← hy,
    Ical.localTime_date _ (by omega) (by omega) (by omega) (by omega), hday]
  unfold DAY_MS at hhh hmm hss ⊢
  rw [Option.some.injEq]
  omega

/-- The day of a key, cut out of its text. -/
theorem sliceNumber_dateKey {d : Civil.Date} (h : 1000 ≤ d.year) (h' : d.year ≤ 9999) :
    sliceNumber (dateKey d.year d.month d.day) 0 4 = some d.year ∧
      sliceNumber (dateKey d.year d.month d.day) 5 7 = some d.month ∧
      sliceNumber (dateKey d.year d.month d.day) 8 10 = some d.day := by
  have hm := d.month_pos
  have hd := d.day_pos
  have hsmall := date_small d
  have hchars : (dateKey d.year d.month d.day).toList =
      digits4 d.year.toNat ++ ['-'] ++ digits2 d.month.toNat ++ ['-'] ++ digits2 d.day.toNat := by
    unfold dateKey
    simp only [String.toList_append]
    rw [toString_digits4 h h', pad_chars (by omega) hsmall.1, pad_chars (by omega) hsmall.2]
    rfl
  have hyear : Number.ofChars (digits4 d.year.toNat) = .ofInt d.year.toNat :=
    Number.ofChars_digits4 (by omega)
  have hmonth : Number.ofChars (digits2 d.month.toNat) = .ofInt d.month.toNat :=
    Number.ofChars_digits2 (by omega)
  have hday : Number.ofChars (digits2 d.day.toNat) = .ofInt d.day.toNat :=
    Number.ofChars_digits2 (by omega)
  unfold sliceNumber
  rw [hchars]
  refine ⟨?_, ?_, ?_⟩
  · show (Number.ofChars (digits4 d.year.toNat)).toInteger = _
    rw [hyear, Number.toInteger_ofInt, Int.toNat_of_nonneg (by omega)]
  · show (Number.ofChars (digits2 d.month.toNat)).toInteger = _
    rw [hmonth, Number.toInteger_ofInt, Int.toNat_of_nonneg (by omega)]
  · show (Number.ofChars (digits2 d.day.toNat)).toInteger = _
    rw [hday, Number.toInteger_ofInt, Int.toNat_of_nonneg (by omega)]

/-- The wall-clock stamp of a day and a time spells that local time. -/
theorem parseLocal_localStamp {d : Civil.Date} (h : 1000 ≤ d.year) (h' : d.year ≤ 9999)
    (time : LocalTime) :
    Ical.parseLocal (localStamp (dateKey d.year d.month d.day) (some time.hh) (some time.mm) 0).toList =
      some (d.toDays * DAY_MS + time.hh * 3600000 + time.mm * 60000) := by
  obtain ⟨hy, hm, hd⟩ := sliceNumber_dateKey h h'
  have hhh := time.hh.isLt
  have hmm := time.mm.isLt
  have hsmall := date_small d
  have hguess : dateUTC d.year (d.month - 1) d.day time.hh time.mm 0 + 0 * 60000 =
      d.toDays * DAY_MS + time.hh * 3600000 + time.mm * 60000 := by
    rw [dateUTC_eq (by omega)]
    show d.toDays * DAY_MS + _ + _ + _ + _ = _
    omega
  have hdiv : (d.toDays * DAY_MS + time.hh * 3600000 + time.mm * 60000) / DAY_MS = d.toDays := by
    unfold DAY_MS
    omega
  have hmins : (d.toDays * DAY_MS + time.hh * 3600000 + time.mm * 60000) % DAY_MS / 60000 =
      time.hh * 60 + time.mm := by
    unfold DAY_MS
    omega
  have hhour : ((time.hh : Nat) * 60 + (time.mm : Nat) : Int) / 60 = (time.hh : Nat) := by omega
  have hmin : ((time.hh : Nat) * 60 + (time.mm : Nat) : Int) % 60 = (time.mm : Nat) := by omega
  have hzero : "00" = pad (0 : Nat) := by decide
  unfold localStamp
  simp only [hy, hm, hd]
  rw [hguess, hdiv, hmins, hhour, hmin, Civil.ofDays_toDays, hzero,
    stamp_chars h h' (by omega) (by omega) (by omega),
    Ical.parseLocal_stamp (by omega) (by omega) (by omega) (by omega) (by omega) (by omega),
    Ical.localTime_date d (by omega) (by omega) (by omega) (by omega)]
  unfold DAY_MS
  rw [Option.some.injEq]
  omega

/-! ## The meeting time -/

theorem twoDigits_some {n : Nat} {a b : Char} {v : Fin n} (h : twoDigits n a b = some v) :
    Lib.isDigit a = true ∧ Lib.isDigit b = true ∧ (v : Nat) = Lib.digitValue a * 10 + Lib.digitValue b := by
  unfold twoDigits at h
  split at h
  · rename_i hdigits
    simp only [Bool.and_eq_true] at hdigits
    simp only at h
    split at h
    · cases h
      exact ⟨hdigits.1, hdigits.2, rfl⟩
    · cases h
  · cases h

/-- Two digits spell the number that `twoDigits` finds. -/
theorem ofChars_twoDigits {n : Nat} {a b : Char} {v : Fin n} (hn : n ≤ 100)
    (h : twoDigits n a b = some v) : (Number.ofChars [a, b]).toInteger = some (v : Nat) := by
  obtain ⟨ha, hb, hv⟩ := twoDigits_some h
  have hdigits : ∀ c ∈ [a, b], Lib.isDigit c = true := by
    simp only [List.forall_mem_cons, List.not_mem_nil, false_imp_iff, implies_true, and_true]
    exact ⟨ha, hb⟩
  have hvalue : ofDigits 10 [a, b] = v := by
    unfold ofDigits radixValue
    simp only [List.foldl_cons, List.foldl_nil]
    rw [if_pos ha, if_pos hb, hv]
    omega
  have hlt := v.isLt
  rw [Number.ofChars_digits (by simp) hdigits, hvalue, Number.round_ofNat (by omega)]
  rfl

/-- A meeting time that parses is split into the same hour and minute. -/
theorem splitTime_parseHhmm {s : String} {t : LocalTime} (h : parseHhmm s = some t) :
    splitTime s = (some ((t.hh : Nat) : Int), some ((t.mm : Nat) : Int)) := by
  unfold parseHhmm at h
  split at h
  · rename_i a b c d hchars
    split at h
    · rename_i hh mm hhh hmm
      cases h
      have hcomma : ∀ x y, Lib.isDigit x = true → Lib.isDigit y = true → ':' ∉ [x, y] := by
        intro x y hx hy hmem
        simp only [List.mem_cons, List.not_mem_nil, or_false] at hmem
        rcases hmem with rfl | rfl
        · exact absurd hx (by decide)
        · exact absurd hy (by decide)
      obtain ⟨ha, hb, -⟩ := twoDigits_some hhh
      obtain ⟨hc, hd, -⟩ := twoDigits_some hmm
      have hsplit : s.toList.splitOn ':' = [[a, b], [c, d]] := by
        rw [hchars]
        refine @List.splitOn_intercalate _ [[a, b], [c, d]] _ _ ':' ?_ (by simp)
        intro l hl
        simp only [List.mem_cons, List.not_mem_nil, or_false] at hl
        rcases hl with rfl | rfl
        · exact hcomma a b ha hb
        · exact hcomma c d hc hd
      unfold splitTime
      rw [hsplit]
      simp only [List.map_cons, List.map_nil]
      rw [ofChars_twoDigits (by decide) hhh, ofChars_twoDigits (by decide) hmm]
      rfl
    · cases h
  · cases h

/-! ## The days -/

/-- A day value that has a code of its own. -/
def KnownDay (n : Number) (day : Int) : Prop :=
  n = .ofInt day ∧ 0 ≤ day ∧ day ≤ 6

theorem icsDay_known {n : Number} {day : Int} (h : KnownDay n day) :
    Ical.weekdayOf (icsDay n).toList = some day := by
  obtain ⟨rfl, h0, h6⟩ := h
  obtain ⟨k, rfl⟩ := Int.eq_ofNat_of_zero_le h0
  have hall : ∀ k : Fin 7, Ical.weekdayOf (icsDay (.ofInt (k.val : Int))).toList = some (k.val : Int) := by
    decide
  exact hall ⟨k, by omega⟩

theorem icsDay_unknown {n : Number} (h : ¬ ∃ day, KnownDay n day) : icsDay n = "" := by
  unfold icsDay
  cases hn : n.toInteger with
  | none => rfl
  | some d =>
    simp only
    split
    · rename_i h0
      have hlarge : 7 ≤ d.toNat := by
        by_contra hsmall
        exact h ⟨d, Number.toInteger_eq_some.1 hn, h0, by omega⟩
      rw [List.getElem?_eq_none (by simpa [ICS_DAYS] using hlarge)]
      rfl
    · rfl

theorem icsDay_comma (n : Number) : ',' ∉ (icsDay n).toList := by
  by_cases h : ∃ day, KnownDay n day
  · obtain ⟨day, rfl, h0, h6⟩ := h
    obtain ⟨k, rfl⟩ := Int.eq_ofNat_of_zero_le h0
    have hall : ∀ k : Fin 7, ',' ∉ (icsDay (.ofInt (k.val : Int))).toList := by decide
    exact hall ⟨k, by omega⟩
  · rw [icsDay_unknown h]
    simp

theorem parseByday_days {days : List Number} (hne : days ≠ []) :
    Ical.parseByday (joinCommas (days.map icsDay)).toList =
      days.mapM fun n => Ical.weekdayOf (icsDay n).toList := by
  unfold joinCommas
  rw [String.toList_ofList, List.map_map, Ical.parseByday_intercalate]
  · rw [List.mapM_map]
    rfl
  · simpa using hne
  · intro l hl
    obtain ⟨n, -, rfl⟩ := List.mem_map.1 hl
    exact icsDay_comma n

/-- A list of known days is read as these days. -/
theorem mapM_known {days : List Number} (h : ∀ n ∈ days, ∃ day, KnownDay n day) :
    ∃ ds, (days.mapM fun n => Ical.weekdayOf (icsDay n).toList) = some ds ∧
      ∀ d, d ∈ ds ↔ Number.ofInt d ∈ days := by
  induction days with
  | nil => exact ⟨[], rfl, by simp⟩
  | cons n days ih =>
    obtain ⟨day, hday⟩ := h n (by simp)
    obtain ⟨ds, hds, hmem⟩ := ih fun m hm => h m (by simp [hm])
    refine ⟨day :: ds, ?_, ?_⟩
    · rw [List.mapM_cons, icsDay_known hday, hds]
      rfl
    · intro d
      rw [List.mem_cons, List.mem_cons, hmem, hday.1]
      have hinj : d = day ↔ Number.ofInt d = Number.ofInt day := by
        constructor
        · exact congrArg _
        · intro heq
          exact Option.some.inj (congrArg Number.toInteger heq)
      rw [hinj]

/-- A list with a value out of range is not read. -/
theorem known_of_mapM {days : List Number} {ds : List Int}
    (h : (days.mapM fun n => Ical.weekdayOf (icsDay n).toList) = some ds) :
    ∀ n ∈ days, ∃ day, KnownDay n day := by
  induction days generalizing ds with
  | nil => simp
  | cons n days ih =>
    rw [List.mapM_cons] at h
    intro m hm
    rcases List.mem_cons.1 hm with rfl | hm
    · by_contra hunknown
      rw [icsDay_unknown hunknown] at h
      cases h
    · obtain ⟨day, -, h⟩ := Option.bind_eq_some_iff.1 h
      obtain ⟨rest, hrest, -⟩ := Option.bind_eq_some_iff.1 h
      exact ih hrest m hm

/-! ## First and last meeting -/

theorem first_le {c : Cadence} {tz : Zone} {first m : Meeting} (hf : (c.meetings tz).head? = some first)
    (hm : m ∈ c.meetings tz) : first.dt ≤ m.dt := by
  have hsorted := meetings_sorted c tz
  cases hl : c.meetings tz with
  | nil =>
    rw [hl] at hm
    cases hm
  | cons a l =>
    rw [hl] at hf hm hsorted
    cases hf
    rcases List.mem_cons.1 hm with rfl | hmem
    · exact Int.le_refl _
    · exact Int.le_of_lt (List.rel_of_pairwise_cons hsorted hmem)

theorem le_last {c : Cadence} {tz : Zone} {last m : Meeting}
    (hl : (c.meetings tz).getLast? = some last) (hm : m ∈ c.meetings tz) : m.dt ≤ last.dt := by
  obtain ⟨init, hinit⟩ := List.getLast?_eq_some_iff.1 hl
  have hsorted := meetings_sorted c tz
  rw [hinit] at hm hsorted
  rcases List.mem_append.1 hm with hmem | hmem
  · exact Int.le_of_lt ((List.pairwise_append.1 hsorted).2.2 m hmem last (by simp))
  · rw [List.mem_singleton.1 hmem]

theorem meeting_day {c : Cadence} {tz : Zone} {m : Meeting} (h : m ∈ c.meetings tz) :
    Number.ofInt (Civil.weekday (m.dt / DAY_MS)) ∈ c.days := by
  obtain ⟨i, -, hi⟩ := mem_meetings.1 h
  obtain ⟨hmem, rfl⟩ := meetingOn_some.1 hi
  exact hmem

/-- A class weekday from the first meeting to the last is a meeting. -/
theorem meeting_between {c : Cadence} {tz : Zone} {first last : Meeting}
    (hf : first ∈ c.meetings tz) (hl : last ∈ c.meetings tz) {day : Int}
    (hday : Number.ofInt (Civil.weekday day) ∈ c.days) (hlow : first.dt / DAY_MS ≤ day)
    (hhigh : day ≤ last.dt / DAY_MS) : ∃ m ∈ c.meetings tz, m.dt / DAY_MS = day := by
  obtain ⟨i, -, hi⟩ := mem_meetings.1 hf
  obtain ⟨j, hj, hj'⟩ := mem_meetings.1 hl
  obtain ⟨-, rfl⟩ := meetingOn_some.1 hi
  obtain ⟨-, rfl⟩ := meetingOn_some.1 hj'
  have hbase := (base_spec c tz).1
  dsimp only at hlow hhigh
  have hdt : c.base tz + (day - c.base tz / DAY_MS).toNat * DAY_MS = day * DAY_MS := by
    unfold DAY_MS at hbase hlow hhigh ⊢
    omega
  have hdiv : day * DAY_MS / DAY_MS = day := by
    unfold DAY_MS
    omega
  refine ⟨⟨day * DAY_MS, (c.perDay (Civil.weekday day)).getD c.general⟩, ?_, hdiv⟩
  rw [mem_meetings]
  refine ⟨(day - c.base tz / DAY_MS).toNat, ?_, ?_⟩
  · unfold DAY_MS at hbase hlow hhigh ⊢
    omega
  · rw [hdt, meetingOn_some, hdiv]
    exact ⟨hday, rfl⟩

/-! ## The event and the schedule -/

/-- The general meeting time on the day of a meeting, as a local time. -/
def Cadence.generalWall (c : Cadence) (day : Int) : Int :=
  day * DAY_MS + c.general.hh * 3600000 + c.general.mm * 60000

/-- The wall time of a meeting less the offset in force at its digits read as UTC. -/
def Meeting.instant (tz : Zone) (m : Meeting) : Int :=
  m.wall - 1000 * tz.offset m.wall

/-- The years of every meeting, in the zone and in UTC, are written with four digits. -/
def FourDigitYears (c : Cadence) (tz : Zone) : Prop :=
  ∀ m ∈ c.meetings tz, 1000 ≤ m.date.year ∧ m.date.year ≤ 9999 ∧
    1000 ≤ wallYear (m.instant tz) ∧ wallYear (m.instant tz) ≤ 9999

/-- When the event says what the schedule says: every day value is a weekday, the zone reads the
general time on the day of a meeting as the instant of that meeting, and the instant of the last
meeting parts the class days of the run from those after it. -/
structure Faithful (c : Cadence) (tz : Zone) : Prop where
  years : FourDigitYears c tz
  known : ∀ n ∈ c.days, ∃ day, KnownDay n day
  reads : ∀ m ∈ c.meetings tz,
    tz.Reads (c.generalWall (m.dt / DAY_MS)) (m.instant tz)
  cut : ∀ first last, (c.meetings tz).head? = some first → (c.meetings tz).getLast? = some last →
    ∀ day t, first.dt / DAY_MS ≤ day → Number.ofInt (Civil.weekday day) ∈ c.days →
      tz.Reads (c.generalWall day) t →
      (t ≤ last.instant tz ↔ day ≤ last.dt / DAY_MS)

/-- The class days come in order in the zone: what a meeting is given, and what the zone reads on
another class day, stand as the two days do. -/
def InOrder (c : Cadence) (tz : Zone) : Prop :=
  ∀ m ∈ c.meetings tz, ∀ day t, Number.ofInt (Civil.weekday day) ∈ c.days →
    tz.Reads (c.generalWall day) t →
    (day < m.dt / DAY_MS → t < m.instant tz) ∧ (m.dt / DAY_MS < day → m.instant tz < t)

theorem scheduledAt_instant {c : Cadence} {tz : Zone} (hy : FourDigitYears c tz) {m : Meeting}
    (hm : m ∈ c.meetings tz) : (occurrence tz m).scheduledAt = m.instant tz := by
  have hd := meetings_dated hm
  have hyear : 1000 ≤ Civil.yearOfDay (m.wall / DAY_MS) := by
    rw [hd.day]
    exact (hy m hm).1
  have hprobe : 100 ≤ wallYear (tz.toLocal m.wall) := by
    have hspec := Civil.yearOfDay_spec (m.wall / DAY_MS)
    have hmono := Civil.dayFromYear_mono hyear
    have h1000 : Civil.dayFromYear 1000 = -354285 := by decide
    have h100 : Civil.dayFromYear 100 = -683003 := by decide
    have hb := tz.toLocal_bounds m.wall
    apply Civil.le_yearOfDay
    unfold DAY_MS at hspec hmono ⊢
    omega
  rw [scheduledAt_eq hd, tzOffsetMs_eq hd.sec hprobe]
  rfl

theorem instant_sec {m : Meeting} (h : m.Dated) (tz : Zone) : m.instant tz % 1000 = 0 := by
  have hsec := h.sec
  unfold Meeting.instant
  omega

theorem icsEvent_fields {course : IcsCourse} {host : String} {now : Int} {occ : List Occurrence}
    {e : IcsEvent} {first last : Occurrence} {meetingTime timezone : String}
    (hf : occ.head? = some first) (hl : occ.getLast? = some last)
    (hm : course.meetingTime = some meetingTime) (hz : course.timezone = some timezone)
    (he : icsEvent course host now occ = some e) :
    e.dtstart = localStamp first.dateKey (splitTime meetingTime).1 (splitTime meetingTime).2 0 ∧
      e.byday = joinCommas ((meetingDaysOf course.meetingDays).map icsDay) ∧
      e.untilStamp = utcStamp last.scheduledAt := by
  unfold icsEvent at he
  rw [hf, hl, hm, hz] at he
  cases he
  exact ⟨rfl, rfl, rfl⟩

/-- What the values of the event are read as. -/
theorem read_event {course : IcsCourse} {c : Cadence} {tz : Zone} {host : String} {now : Int}
    {e : IcsEvent} (hc : course.cadence = some c)
    (he : icsEvent course host now ((c.meetings tz).map (occurrence tz)) = some e)
    (hy : FourDigitYears c tz) :
    ∃ first last, (c.meetings tz).head? = some first ∧ (c.meetings tz).getLast? = some last ∧
      Ical.parseLocal e.dtstart.toList = some (c.generalWall (first.dt / DAY_MS)) ∧
      Ical.parseByday e.byday.toList =
        c.days.mapM (fun n => Ical.weekdayOf (icsDay n).toList) ∧
      Ical.parseUtc e.untilStamp.toList = some (last.instant tz) := by
  obtain ⟨htime, htimezone, hdays, -⟩ := cadence_fields hc
  obtain ⟨meetingTime, hmeeting, hgeneral⟩ := Option.bind_eq_some_iff.1 htime
  obtain ⟨first, hf⟩ : ∃ first, (c.meetings tz).head? = some first := by
    cases hf : (c.meetings tz).head? with
    | some first => exact ⟨first, rfl⟩
    | none =>
      unfold icsEvent at he
      rw [List.head?_map, hf] at he
      cases he
  have hfirst : first ∈ c.meetings tz := List.mem_of_head? hf
  obtain ⟨last, hl⟩ : ∃ last, (c.meetings tz).getLast? = some last :=
    ⟨_, List.getLast?_eq_some_getLast (List.ne_nil_of_mem hfirst)⟩
  have hlast : last ∈ c.meetings tz := List.mem_of_getLast? hl
  have hf' : ((c.meetings tz).map (occurrence tz)).head? = some (occurrence tz first) := by
    rw [List.head?_map, hf]
    rfl
  have hl' : ((c.meetings tz).map (occurrence tz)).getLast? = some (occurrence tz last) := by
    rw [List.getLast?_map, hl]
    rfl
  obtain ⟨hstart, hbyday, huntil⟩ := icsEvent_fields hf' hl' hmeeting htimezone he
  obtain ⟨hlow, hhigh, -, -⟩ := hy first hfirst
  obtain ⟨-, -, hlow', hhigh'⟩ := hy last hlast
  refine ⟨first, last, hf, hl, ?_, ?_, ?_⟩
  · have hkey : (occurrence tz first).dateKey =
        dateKey first.date.year first.date.month first.date.day := rfl
    have hday : first.date.toDays = first.dt / DAY_MS := Civil.toDays_ofDays _
    rw [hstart, hkey, splitTime_parseHhmm hgeneral, parseLocal_localStamp hlow hhigh, hday]
    rfl
  · rw [hbyday, ← hdays]
    exact parseByday_days (List.ne_nil_of_mem (meeting_day hfirst))
  · rw [huntil, scheduledAt_instant hy hlast]
    exact parseUtc_utcStamp (instant_sec (meetings_dated hlast) tz) hlow' hhigh'

/-- The days and the time of day that `DTSTART` spells. -/
theorem generalWall_split (c : Cadence) (first day : Int) :
    c.generalWall first / 86400000 = first ∧
      day * 86400000 + c.generalWall first % 86400000 = c.generalWall day := by
  have hh := c.general.hh.isLt
  have hm := c.general.mm.isLt
  unfold Cadence.generalWall DAY_MS
  constructor
  · omega
  · omega

/-- The instants of the recurrence: the general time on the class days from the first meeting on,
up to the instant of the last one. -/
theorem instants_iff {c : Cadence} {tz : Zone} {first last : Meeting} {ds : List Int}
    (hds : ∀ d, d ∈ ds ↔ Number.ofInt d ∈ c.days) {t : Int} :
    t ∈ (Ical.Weekly.mk (c.generalWall (first.dt / DAY_MS)) ds (last.instant tz)).instants tz ↔
      ∃ day, first.dt / DAY_MS ≤ day ∧ Number.ofInt (Civil.weekday day) ∈ c.days ∧
        tz.Reads (c.generalWall day) t ∧ t ≤ last.instant tz := by
  unfold Ical.Weekly.instants
  simp only [Set.mem_ofPred_eq, hds]
  constructor
  · rintro ⟨day, hlow, hday, hreads, hle⟩
    rw [(generalWall_split c _ day).1] at hlow
    rw [(generalWall_split c _ day).2] at hreads
    exact ⟨day, hlow, hday, hreads, hle⟩
  · rintro ⟨day, hlow, hday, hreads, hle⟩
    refine ⟨day, ?_, hday, ?_, hle⟩
    · rw [(generalWall_split c _ day).1]
      exact hlow
    · rw [(generalWall_split c _ day).2]
      exact hreads

theorem day_le {m m' : Meeting} (h : m.dt ≤ m'.dt) : m.dt / DAY_MS ≤ m'.dt / DAY_MS := by
  unfold DAY_MS
  omega

theorem describes_of_faithful {course : IcsCourse} {c : Cadence} {tz : Zone} {host : String}
    {now : Int} {e : IcsEvent} (hc : course.cadence = some c)
    (he : icsEvent course host now ((c.meetings tz).map (occurrence tz)) = some e)
    (h : Faithful c tz) : Describes tz e ((c.meetings tz).map (occurrence tz)) := by
  obtain ⟨first, last, hf, hl, hstart, hbyday, huntil⟩ := read_event hc he h.years
  obtain ⟨ds, hds, hmem⟩ := mapM_known h.known
  have hfirst : first ∈ c.meetings tz := List.mem_of_head? hf
  have hlast : last ∈ c.meetings tz := List.mem_of_getLast? hl
  refine ⟨_, by unfold IcsEvent.read; rw [hstart, hbyday, hds, huntil], fun t => ?_⟩
  rw [instants_iff hmem]
  constructor
  · rintro ⟨day, hlow, hday, hreads, hle⟩
    have hhigh := (h.cut first last hf hl day t hlow hday hreads).1 hle
    obtain ⟨m, hm, rfl⟩ := meeting_between hfirst hlast hday hlow hhigh
    refine ⟨_, List.mem_map_of_mem hm, ?_⟩
    rw [scheduledAt_instant h.years hm]
    exact (h.reads m hm).unique hreads
  · rintro ⟨o, ho, rfl⟩
    obtain ⟨m, hm, rfl⟩ := List.mem_map.1 ho
    rw [scheduledAt_instant h.years hm]
    have hlow := day_le (first_le hf hm)
    refine ⟨m.dt / DAY_MS, hlow, meeting_day hm, h.reads m hm, ?_⟩
    exact (h.cut first last hf hl _ _ hlow (meeting_day hm) (h.reads m hm)).2 (day_le (le_last hl hm))

theorem faithful_of_describes {course : IcsCourse} {c : Cadence} {tz : Zone} {host : String}
    {now : Int} {e : IcsEvent} (hc : course.cadence = some c)
    (he : icsEvent course host now ((c.meetings tz).map (occurrence tz)) = some e)
    (hy : FourDigitYears c tz) (ho : InOrder c tz)
    (h : Describes tz e ((c.meetings tz).map (occurrence tz))) : Faithful c tz := by
  obtain ⟨first, last, hf, hl, hstart, hbyday, huntil⟩ := read_event hc he hy
  obtain ⟨r, hr, hall⟩ := h
  have hfirst : first ∈ c.meetings tz := List.mem_of_head? hf
  have hlast : last ∈ c.meetings tz := List.mem_of_getLast? hl
  unfold IcsEvent.read at hr
  rw [hstart, hbyday, huntil] at hr
  cases hm : c.days.mapM (fun n => Ical.weekdayOf (icsDay n).toList) with
  | none =>
    rw [hm] at hr
    cases hr
  | some ds =>
    rw [hm] at hr
    cases hr
    have hknown := known_of_mapM hm
    obtain ⟨ds', hds', hmem⟩ := mapM_known hknown
    rw [hm] at hds'
    cases hds'
    have hreads : ∀ m ∈ c.meetings tz,
        tz.Reads (c.generalWall (m.dt / DAY_MS)) (m.instant tz) := by
      intro m hm
      obtain ⟨day, -, hday, hreads, -⟩ := (instants_iff hmem).1
        ((hall _).2 ⟨_, List.mem_map_of_mem hm, scheduledAt_instant hy hm⟩)
      obtain ⟨hbefore, hafter⟩ := ho m hm day _ hday hreads
      have heq : m.dt / DAY_MS = day := by omega
      rw [heq]
      exact hreads
    refine ⟨hy, hknown, hreads, ?_⟩
    intro first' last' hf' hl' day t hlow hday hread
    rw [hf] at hf'
    rw [hl] at hl'
    cases hf'
    cases hl'
    obtain ⟨hbefore, hafter⟩ := ho last hlast day t hday hread
    constructor
    · intro hle
      by_contra hgt
      have := hafter (by omega)
      omega
    · intro hle
      rcases (by omega : day < last.dt / DAY_MS ∨ day = last.dt / DAY_MS) with hlt | rfl
      · exact Int.le_of_lt (hbefore hlt)
      · exact Int.le_of_eq (hread.unique (hreads last hlast))

/-! ## Zones without changes of offset -/

theorem fixed_instant {c : Cadence} {k : Int} {h : -50400 ≤ k ∧ k ≤ 50400} {m : Meeting}
    (hm : m ∈ c.meetings (.fixed k h)) : m.instant (.fixed k h) =
      m.dt / DAY_MS * DAY_MS + m.time.hh * 3600000 + m.time.mm * 60000 - 1000 * k := by
  have hmid := (meetings_dated hm).midnight
  show m.wall - 1000 * k = _
  unfold Meeting.wall
  unfold DAY_MS at hmid ⊢
  omega

theorem fixed_inOrder (c : Cadence) {k : Int} {h : -50400 ≤ k ∧ k ≤ 50400} :
    InOrder c (.fixed k h) := by
  intro m hm day t hday hreads
  rw [Zone.reads_fixed] at hreads
  rw [fixed_instant hm, hreads]
  have hh := c.general.hh.isLt
  have hmm := c.general.mm.isLt
  have hh' := m.time.hh.isLt
  have hmm' := m.time.mm.isLt
  unfold Cadence.generalWall DAY_MS
  constructor
  · intro hlt
    omega
  · intro hlt
    omega

/-- Where the offset never changes, the event is right when every class is at the general time. -/
theorem fixed_faithful {c : Cadence} {k : Int} {h : -50400 ≤ k ∧ k ≤ 50400}
    (hy : FourDigitYears c (.fixed k h)) :
    Faithful c (.fixed k h) ↔ (∀ n ∈ c.days, ∃ day, KnownDay n day) ∧
      ∀ m ∈ c.meetings (.fixed k h), m.time = c.general := by
  constructor
  · intro hf
    refine ⟨hf.known, fun m hm => ?_⟩
    have hreads := Zone.reads_fixed.1 (hf.reads m hm)
    rw [fixed_instant hm] at hreads
    unfold Cadence.generalWall DAY_MS at hreads
    have hh := c.general.hh.isLt
    have hmm := c.general.mm.isLt
    have hh' := m.time.hh.isLt
    have hmm' := m.time.mm.isLt
    have hhour : (m.time.hh : Nat) = c.general.hh := by omega
    have hmin : (m.time.mm : Nat) = c.general.mm := by omega
    exact LocalTime.ext (Fin.ext hhour) (Fin.ext hmin)
  · rintro ⟨hknown, htime⟩
    have hat : ∀ m ∈ c.meetings (.fixed k h),
        m.instant (.fixed k h) = c.generalWall (m.dt / DAY_MS) - 1000 * k := by
      intro m hm
      rw [fixed_instant hm, htime m hm]
      rfl
    refine ⟨hy, hknown, fun m hm => Zone.reads_fixed.2 (hat m hm), ?_⟩
    intro first last _ hl day t _ _ hreads
    rw [Zone.reads_fixed.1 hreads, hat last (List.mem_of_getLast? hl)]
    unfold Cadence.generalWall DAY_MS
    omega

/-- The calendar file against the schedule: the event gives exactly the instants of the occurrences
when the conditions of `Faithful` hold, and wherever the class days come in order only then. -/
theorem calendar_describes {tzdb : String → Option Zone} {course : IcsCourse} {c : Cadence} {tz : Zone}
    {host : String} {now : Int} {e : IcsEvent} (hc : course.cadence = some c)
    (htz : tzdb c.timezone = some tz) (he : courseEvent tzdb course host now = .ok (some e)) :
    ∃ occ, listOccurrences tzdb course.toCourseSchedule = .ok occ ∧
      (Faithful c tz → Describes tz e occ) ∧
      (FourDigitYears c tz → InOrder c tz → (Describes tz e occ ↔ Faithful c tz)) := by
  have hocc : listOccurrences tzdb course.toCourseSchedule =
      .ok ((c.meetings tz).map (occurrence tz)) := by
    unfold listOccurrences
    simp only [hc, htz]
  have hevent : icsEvent course host now ((c.meetings tz).map (occurrence tz)) = some e := by
    unfold courseEvent at he
    rw [hocc] at he
    exact Except.ok.inj he
  refine ⟨_, hocc, describes_of_faithful hc hevent, fun hy ho => ⟨?_, ?_⟩⟩
  · exact faithful_of_describes hc hevent hy ho
  · exact describes_of_faithful hc hevent

/-! ## A class with a late Wednesday -/

namespace Example

/-- Mondays and Wednesdays at 18:00 from Monday 6 January 2025 for two weeks. -/
def course (timesByDay : Json) : IcsCourse :=
  { startDate := some 1736121600000
    durationWeeks := some 2
    meetingDays := .arr [.num (.ofInt 1), .num (.ofInt 3)]
    meetingTime := some "18:00"
    meetingTimesByDay := timesByDay
    timezone := some "Africa/Lagos"
    id := "c", title := "Web", scheduleUpdatedAt := none }

def courseCadence (timesByDay : Json) : Cadence :=
  { startDate := 1736121600000, durationWeeks := 2, days := [.ofInt 1, .ofInt 3], general := evening
    perDay := parseTimesByDay timesByDay, timezone := "Africa/Lagos" }

theorem course_cadence (timesByDay : Json) :
    (course timesByDay).cadence = some (courseCadence timesByDay) := rfl

def event : IcsEvent :=
  { uid := "course-c@livetich.com", seq := 0, dtstamp := "20250105T000000Z"
    tzid := "Africa/Lagos", dtstart := "20250106T180000", dtend := "20250106T190000"
    byday := "MO,WE", untilStamp := "20250115T170000Z", title := "Web" }

def lateWednesday : Json := .obj [("3", .str "20:00")]

/-- The event of the course with late Wednesdays: only `UNTIL` is another. -/
def lateEvent : IcsEvent := { event with untilStamp := "20250115T190000Z" }

theorem events_emitted :
    courseEvent lagosZones (course .null) "livetich.com" 1736035200000 = .ok (some event) ∧
      courseEvent lagosZones (course lateWednesday) "livetich.com" 1736035200000 = .ok (some lateEvent) := by
  decide +kernel

theorem course_years (timesByDay : Json)
    (h : timesByDay = .null ∨ timesByDay = lateWednesday) :
    FourDigitYears (courseCadence timesByDay) lagos := by
  unfold FourDigitYears
  rcases h with rfl | rfl
  · decide
  · decide +kernel

theorem course_known (timesByDay : Json) : ∀ n ∈ (courseCadence timesByDay).days, ∃ day, KnownDay n day := by
  show ∀ n ∈ [Number.ofInt 1, Number.ofInt 3], ∃ day, KnownDay n day
  simp only [List.forall_mem_cons, List.not_mem_nil, false_imp_iff, implies_true, and_true]
  exact ⟨⟨1, rfl, by decide, by decide⟩, ⟨3, rfl, by decide, by decide⟩⟩

end Example

open Example in
theorem plain_course_described :
    ∃ occ, listOccurrences lagosZones (course .null).toCourseSchedule = .ok occ ∧
      (Faithful (courseCadence .null) lagos → Describes lagos event occ) ∧
      (FourDigitYears (courseCadence .null) lagos → InOrder (courseCadence .null) lagos →
        (Describes lagos event occ ↔ Faithful (courseCadence .null) lagos)) ∧
      Faithful (courseCadence .null) lagos := by
  obtain ⟨occ, hocc, hto, hiff⟩ :=
    calendar_describes (course_cadence .null) (show lagosZones _ = some lagos from rfl) events_emitted.1
  exact ⟨occ, hocc, hto, hiff, (fixed_faithful (course_years .null (Or.inl rfl))).2
    ⟨course_known .null, by decide⟩⟩

open Example in
theorem late_wednesday_misplaced :
    ¬ ∀ (tzdb : String → Option Zone) (course : IcsCourse) (tz : Zone) (host : String) (now : Int)
        (e : IcsEvent) (occ : List Occurrence), tzdb e.tzid = some tz →
        courseEvent tzdb course host now = .ok (some e) →
        listOccurrences tzdb course.toCourseSchedule = .ok occ → Describes tz e occ := by
  intro h
  have hyears := course_years lateWednesday (Or.inr rfl)
  have hocc : listOccurrences lagosZones (course lateWednesday).toCourseSchedule =
      .ok (((courseCadence lateWednesday).meetings lagos).map (occurrence lagos)) := rfl
  have hevent : icsEvent (course lateWednesday) "livetich.com" 1736035200000
      (((courseCadence lateWednesday).meetings lagos).map (occurrence lagos)) = some lateEvent :=
    Except.ok.inj events_emitted.2
  have hdescribes := h lagosZones (course lateWednesday) lagos _ _ lateEvent _ rfl
    events_emitted.2 hocc
  have hfaithful := faithful_of_describes (course_cadence lateWednesday) hevent hyears
    (fixed_inOrder _) hdescribes
  exact absurd ((fixed_faithful hyears).1 hfaithful).2 (by decide +kernel)

end Livetich.Schedule
