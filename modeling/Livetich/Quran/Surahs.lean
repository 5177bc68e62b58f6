/-
The catalog of surahs and the check of a reference into it (`validateRef`). Of a surah the catalog keeps
here what the check reads: its name in Latin letters and how many ayahs it has.
-/
import Mathlib.Tactic.Common

namespace Livetich.Quran

structure Surah where
  transliteration : String
  ayahCount : Nat

/-- `SURAHS`: the first is number 1. -/
def surahs : List Surah :=
  [⟨"Al-Fatihah", 7⟩, ⟨"Al-Baqarah", 286⟩, ⟨"Aal-E-Imran", 200⟩, ⟨"An-Nisa", 176⟩, ⟨"Al-Ma'idah", 120⟩,
    ⟨"Al-An'am", 165⟩, ⟨"Al-A'raf", 206⟩, ⟨"Al-Anfal", 75⟩, ⟨"At-Tawbah", 129⟩, ⟨"Yunus", 109⟩, ⟨"Hud", 123⟩,
    ⟨"Yusuf", 111⟩, ⟨"Ar-Ra'd", 43⟩, ⟨"Ibrahim", 52⟩, ⟨"Al-Hijr", 99⟩, ⟨"An-Nahl", 128⟩, ⟨"Al-Isra", 111⟩,
    ⟨"Al-Kahf", 110⟩, ⟨"Maryam", 98⟩, ⟨"Ta-Ha", 135⟩, ⟨"Al-Anbiya", 112⟩, ⟨"Al-Hajj", 78⟩, ⟨"Al-Mu'minun", 118⟩,
    ⟨"An-Nur", 64⟩, ⟨"Al-Furqan", 77⟩, ⟨"Ash-Shu'ara", 227⟩, ⟨"An-Naml", 93⟩, ⟨"Al-Qasas", 88⟩,
    ⟨"Al-Ankabut", 69⟩, ⟨"Ar-Rum", 60⟩, ⟨"Luqman", 34⟩, ⟨"As-Sajdah", 30⟩, ⟨"Al-Ahzab", 73⟩, ⟨"Saba", 54⟩,
    ⟨"Fatir", 45⟩, ⟨"Ya-Sin", 83⟩, ⟨"As-Saffat", 182⟩, ⟨"Sad", 88⟩, ⟨"Az-Zumar", 75⟩, ⟨"Ghafir", 85⟩,
    ⟨"Fussilat", 54⟩, ⟨"Ash-Shura", 53⟩, ⟨"Az-Zukhruf", 89⟩, ⟨"Ad-Dukhan", 59⟩, ⟨"Al-Jathiyah", 37⟩,
    ⟨"Al-Ahqaf", 35⟩, ⟨"Muhammad", 38⟩, ⟨"Al-Fath", 29⟩, ⟨"Al-Hujurat", 18⟩, ⟨"Qaf", 45⟩, ⟨"Adh-Dhariyat", 60⟩,
    ⟨"At-Tur", 49⟩, ⟨"An-Najm", 62⟩, ⟨"Al-Qamar", 55⟩, ⟨"Ar-Rahman", 78⟩, ⟨"Al-Waqi'ah", 96⟩, ⟨"Al-Hadid", 29⟩,
    ⟨"Al-Mujadila", 22⟩, ⟨"Al-Hashr", 24⟩, ⟨"Al-Mumtahanah", 13⟩, ⟨"As-Saff", 14⟩, ⟨"Al-Jumu'ah", 11⟩,
    ⟨"Al-Munafiqun", 11⟩, ⟨"At-Taghabun", 18⟩, ⟨"At-Talaq", 12⟩, ⟨"At-Tahrim", 12⟩, ⟨"Al-Mulk", 30⟩,
    ⟨"Al-Qalam", 52⟩, ⟨"Al-Haqqah", 52⟩, ⟨"Al-Ma'arij", 44⟩, ⟨"Nuh", 28⟩, ⟨"Al-Jinn", 28⟩, ⟨"Al-Muzzammil", 20⟩,
    ⟨"Al-Muddaththir", 56⟩, ⟨"Al-Qiyamah", 40⟩, ⟨"Al-Insan", 31⟩, ⟨"Al-Mursalat", 50⟩, ⟨"An-Naba", 40⟩,
    ⟨"An-Nazi'at", 46⟩, ⟨"Abasa", 42⟩, ⟨"At-Takwir", 29⟩, ⟨"Al-Infitar", 19⟩, ⟨"Al-Mutaffifin", 36⟩,
    ⟨"Al-Inshiqaq", 25⟩, ⟨"Al-Buruj", 22⟩, ⟨"At-Tariq", 17⟩, ⟨"Al-A'la", 19⟩, ⟨"Al-Ghashiyah", 26⟩,
    ⟨"Al-Fajr", 30⟩, ⟨"Al-Balad", 20⟩, ⟨"Ash-Shams", 15⟩, ⟨"Al-Layl", 21⟩, ⟨"Ad-Duha", 11⟩, ⟨"Ash-Sharh", 8⟩,
    ⟨"At-Tin", 8⟩, ⟨"Al-Alaq", 19⟩, ⟨"Al-Qadr", 5⟩, ⟨"Al-Bayyinah", 8⟩, ⟨"Az-Zalzalah", 8⟩, ⟨"Al-Adiyat", 11⟩,
    ⟨"Al-Qari'ah", 11⟩, ⟨"At-Takathur", 8⟩, ⟨"Al-Asr", 3⟩, ⟨"Al-Humazah", 9⟩, ⟨"Al-Fil", 5⟩, ⟨"Quraysh", 4⟩,
    ⟨"Al-Ma'un", 7⟩, ⟨"Al-Kawthar", 3⟩, ⟨"Al-Kafirun", 6⟩, ⟨"An-Nasr", 3⟩, ⟨"Al-Masad", 5⟩, ⟨"Al-Ikhlas", 4⟩,
    ⟨"Al-Falaq", 5⟩, ⟨"An-Nas", 6⟩]

example : surahs.length = 114 ∧ (surahs.map (·.ayahCount)).sum = 6236 := by decide

def getSurah (number : Int) : Option Surah := if number < 1 then none else surahs[(number - 1).toNat]?

/-- A surah and a range of its ayahs. -/
structure Ref where
  surahNumber : Int
  ayahStart : Int
  ayahEnd : Int
  deriving DecidableEq

def validateRef (surahNumber ayahStart ayahEnd : Int) : Except String Ref :=
  match getSurah surahNumber with
  | none => .error "Unknown surah"
  | some surah =>
    if ayahStart < 1 ∨ ayahEnd < 1 then .error "Ayah numbers must be positive whole numbers"
    else if surah.ayahCount < ayahEnd then
      .error (surah.transliteration ++ " has " ++ toString surah.ayahCount ++ " ayahs")
    else if ayahEnd < ayahStart then .error "Start ayah must not be after the end ayah"
    else .ok ⟨surahNumber, ayahStart, ayahEnd⟩

/-- How many ayahs the surah of a number has; none where there is no such surah. -/
def ayahsOf (number : Int) : Nat := ((getSurah number).map (·.ayahCount)).getD 0

/-- The ayah is in the text. -/
def IsVerse (surah ayah : Int) : Prop := 1 ≤ ayah ∧ ayah ≤ ayahsOf surah

instance decidableIsVerse (surah ayah : Int) : Decidable (IsVerse surah ayah) :=
  inferInstanceAs (Decidable (_ ∧ _))

/-- Every surah has an ayah. -/
theorem one_le_ayahsOf {number : Int} (h : 1 ≤ number ∧ number ≤ 114) : 1 ≤ ayahsOf number := by
  have hall : ∀ n : Fin 114, 1 ≤ ayahsOf ((n : Nat) + 1 : Nat) := by decide
  have hn := hall ⟨(number - 1).toNat, by omega⟩
  have hnumber : (((number - 1).toNat + 1 : Nat) : Int) = number := by omega
  rwa [hnumber] at hn

/-- A reference that passes is a range of ayahs that are there, in order. -/
theorem validateRef_ok {surahNumber ayahStart ayahEnd : Int} {ref : Ref}
    (h : validateRef surahNumber ayahStart ayahEnd = .ok ref) :
    ref = ⟨surahNumber, ayahStart, ayahEnd⟩ ∧ 1 ≤ ayahStart ∧ ayahStart ≤ ayahEnd ∧
      ayahEnd ≤ ayahsOf surahNumber := by
  unfold validateRef at h
  cases hs : getSurah surahNumber with
  | none =>
    rw [hs] at h
    cases h
  | some surah =>
    rw [hs] at h
    simp only at h
    split at h
    · cases h
    split at h
    · cases h
    split at h
    · cases h
    cases h
    have hcount : ayahsOf surahNumber = surah.ayahCount := by
      unfold ayahsOf
      rw [hs]
      rfl
    rw [hcount]
    refine ⟨rfl, ?_, ?_, ?_⟩ <;> omega

end Livetich.Quran
