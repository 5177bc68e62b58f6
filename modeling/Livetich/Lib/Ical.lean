/-
Weekly events of iCalendar: time stamps and weekday lists as they are written and read, and the
instants of a weekly recurrence in a time zone. Local times are in milliseconds.
-/
import Mathlib.Data.Set.Basic
import Livetich.Lib.Civil
import Livetich.Lib.Digits
import Livetich.Lib.Offset

namespace Livetich.Lib.Ical

/-! ## Time stamps -/

/-- The local time of a date and a time of day that exist. -/
def localTime (y m d hh mm ss : Nat) : Option Int :=
  let n := Civil.makeDay y m d
  let date := Civil.ofDays n
  if date.year = y ∧ date.month = m ∧ date.day = d ∧ hh < 24 ∧ mm < 60 ∧ ss < 60 then
    some (n * 86400000 + hh * 3600000 + mm * 60000 + ss * 1000)
  else none

/-- A local stamp `YYYYMMDDTHHMMSS`. -/
def parseLocal (cs : List Char) : Option Int :=
  match cs with
  | [y3, y2, y1, y0, m1, m0, d1, d0, 'T', h1, h0, i1, i0, s1, s0] =>
    if [y3, y2, y1, y0, m1, m0, d1, d0, h1, h0, i1, i0, s1, s0].all isDigit then
      localTime
        (digitValue y3 * 1000 + digitValue y2 * 100 + digitValue y1 * 10 + digitValue y0)
        (digitValue m1 * 10 + digitValue m0) (digitValue d1 * 10 + digitValue d0)
        (digitValue h1 * 10 + digitValue h0) (digitValue i1 * 10 + digitValue i0)
        (digitValue s1 * 10 + digitValue s0)
    else none
  | _ => none

/-- A stamp in UTC, which ends in `Z`. -/
def parseUtc (cs : List Char) : Option Int :=
  if cs.getLast? = some 'Z' then parseLocal cs.dropLast else none

/-- The stamp of a date and a time of day. -/
def stamp (y m d hh mm ss : Nat) : List Char :=
  digits4 y ++ digits2 m ++ digits2 d ++ ['T'] ++ digits2 hh ++ digits2 mm ++ digits2 ss

theorem parseLocal_stamp {y m d hh mm ss : Nat} (hy : y < 10000) (hm : m < 100) (hd : d < 100)
    (hh' : hh < 100) (hmm : mm < 100) (hss : ss < 100) :
    parseLocal (stamp y m d hh mm ss) = localTime y m d hh mm ss := by
  have hdigit : ∀ n, n < 10 → isDigit (Nat.digitChar n) = true := fun n => isDigit_digitChar
  unfold stamp digits4 digits2 parseLocal
  simp only [List.cons_append, List.nil_append, List.all_cons, List.all_nil, Bool.and_true]
  rw [value_digits4 hy, value_digits2 hm, value_digits2 hd, value_digits2 hh', value_digits2 hmm,
    value_digits2 hss, if_pos]
  simp only [Bool.and_eq_true]
  refine ⟨?_, ?_, ?_, ?_, ?_, ?_, ?_, ?_, ?_, ?_, ?_, ?_, ?_, ?_⟩ <;> exact hdigit _ (by omega)

theorem localTime_date (date : Civil.Date) (hy : 0 ≤ date.year) {hh mm ss : Nat} (hh' : hh < 24)
    (hmm : mm < 60) (hss : ss < 60) :
    localTime date.year.toNat date.month.toNat date.day.toNat hh mm ss =
      some (date.toDays * 86400000 + hh * 3600000 + mm * 60000 + ss * 1000) := by
  have hm := date.month_pos
  have hd := date.day_pos
  have hyear : ((date.year.toNat : Nat) : Int) = date.year := by omega
  have hmonth : ((date.month.toNat : Nat) : Int) = date.month := by omega
  have hday : ((date.day.toNat : Nat) : Int) = date.day := by omega
  have hmake : Civil.makeDay date.year.toNat date.month.toNat date.day.toNat = date.toDays := by
    rw [hyear, hmonth, hday]
    rfl
  unfold localTime
  simp only
  rw [hmake, Civil.ofDays_toDays, if_pos ⟨hyear.symm, hmonth.symm, hday.symm, hh', hmm, hss⟩]

/-! ## Weekday lists -/

def weekdayOf : List Char → Option Int
  | ['S', 'U'] => some 0
  | ['M', 'O'] => some 1
  | ['T', 'U'] => some 2
  | ['W', 'E'] => some 3
  | ['T', 'H'] => some 4
  | ['F', 'R'] => some 5
  | ['S', 'A'] => some 6
  | _ => none

/-- A `BYDAY` list. -/
def parseByday (cs : List Char) : Option (List Int) :=
  (cs.splitOn ',').mapM weekdayOf

/-- A list of codes is read one by one, where no code holds a comma. -/
theorem parseByday_intercalate {codes : List (List Char)} (hne : codes ≠ [])
    (h : ∀ c ∈ codes, ',' ∉ c) : parseByday ([','].intercalate codes) = codes.mapM weekdayOf := by
  unfold parseByday
  rw [List.splitOn_intercalate ',' h hne]

/-! ## Weekly recurrence -/

/-- `DTSTART` as a local time, the weekdays of `BYDAY`, and `UNTIL`. -/
structure Weekly where
  dtstart : Int
  byday : List Int
  untilTime : Int

/-- The instants of the recurrence in a zone: the time of `DTSTART` on the listed weekdays from its
day on, up to and including `UNTIL`. -/
def Weekly.instants (r : Weekly) (z : Zone) : Set Int :=
  { t | ∃ day, r.dtstart / 86400000 ≤ day ∧ Civil.weekday day ∈ r.byday ∧
    z.Reads (day * 86400000 + r.dtstart % 86400000) t ∧ t ≤ r.untilTime }

end Livetich.Lib.Ical
