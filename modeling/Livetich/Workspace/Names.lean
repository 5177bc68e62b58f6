/-
The names of students' repositories (`repo-name.util.ts`). Codes of letters and digits in upper case
can be read back from a name, so the name tells the two codes and the number apart.
-/
import Livetich.Code.Paths
import Livetich.Courses.Create

namespace Livetich.Workspace

open Livetich.Code (jsLength)
open Livetich.Courses (isPlainCode isAlphanum_case)

/-! ## Slugs -/

/-- The Unicode tables that strings are normalized and classified by, right on ASCII. -/
structure Unicode where
  nfkd : List Char → List Char
  isLetterOrNumber : Char → Bool
  toLowerCase : List Char → List Char
  nfkd_ascii : ∀ cs, (∀ c ∈ cs, c.isAlphanum = true) → nfkd cs = cs
  isLetterOrNumber_ascii : ∀ c : Char, c.isAlphanum = true → isLetterOrNumber c = true
  toLowerCase_ascii : ∀ cs, (∀ c ∈ cs, c.isAlphanum = true) → toLowerCase cs = cs.map Char.toLower

/-- Each run of characters that pass the test becomes one dash; the flag says whether a run is open. -/
def dashRuns (test : Char → Bool) : Bool → List Char → List Char
  | _, [] => []
  | inRun, c :: cs =>
    if test c then if inRun then dashRuns test true cs else '-' :: dashRuns test true cs
    else c :: dashRuns test false cs

/-- `replace(/^-|-$/g, '')`. -/
def trimDash (cs : List Char) : List Char :=
  let cs := if cs.head? = some '-' then cs.tail else cs
  if cs.getLast? = some '-' then cs.dropLast else cs

def slugPart (unicode : Unicode) (value : String) : List Char :=
  unicode.toLowerCase (trimDash (dashRuns (· == '-') false
    (dashRuns (fun c => !unicode.isLetterOrNumber c) false (unicode.nfkd value.toList))))

/-! ## Names -/

def maxRepoName : Nat := 100

/-- The name, or the message of a `RepoNameError`. -/
def repositoryName (unicode : Unicode) (programCode cohortCode : Option String) (enrollmentNo : Option Nat) :
    Except String String :=
  let program := slugPart unicode (programCode.getD "")
  let cohort := slugPart unicode (cohortCode.getD "")
  if program = [] then .error "The program needs a short code before a student can start coding"
  else if cohort = [] then .error "This cohort needs a short code before a student can start coding"
  else
    match enrollmentNo with
    | none => .error "This enrolment has no number yet"
    | some no =>
      if no = 0 then .error "This enrolment has no number yet"
      else
        let name := program ++ '-' :: (cohort ++ '-' :: ("enr".toList ++ (toString no).toList))
        if maxRepoName < jsLength name then
          .error ("Repository name \"" ++ String.ofList name ++
            "\" is longer than GitHub allows — shorten the program or cohort code")
        else .ok (String.ofList name)

/-! ## Reading the parts back -/

theorem dashRuns_of_none {test : Char → Bool} : ∀ {cs : List Char}, (∀ c ∈ cs, test c = false) →
    ∀ inRun, dashRuns test inRun cs = cs
  | [], _, _ => rfl
  | c :: cs, h, inRun => by
    rw [List.forall_mem_cons] at h
    unfold dashRuns
    rw [if_neg (by rw [h.1]; exact Bool.false_ne_true), dashRuns_of_none h.2]

theorem isAlphanum_ne_dash {c : Char} (h : c.isAlphanum = true) : c ≠ '-' := by
  rintro rfl
  revert h
  decide

theorem trimDash_of_no_dash {cs : List Char} (h : ∀ c ∈ cs, c ≠ '-') : trimDash cs = cs := by
  unfold trimDash
  have hhead : cs.head? ≠ some '-' := fun hc => h '-' (List.mem_of_head? hc) rfl
  have hlast : cs.getLast? ≠ some '-' := fun hc => h '-' (List.mem_of_getLast? hc) rfl
  simp only [if_neg hhead, if_neg hlast]

/-- Letters and digits only change their case. -/
theorem slugPart_alphanum (unicode : Unicode) {code : String} (halnum : ∀ c ∈ code.toList, c.isAlphanum = true) :
    slugPart unicode code = code.toList.map Char.toLower := by
  have hdash : ∀ c ∈ code.toList, c ≠ '-' := fun c hc => isAlphanum_ne_dash (halnum c hc)
  have hletters : dashRuns (fun c => !unicode.isLetterOrNumber c) false code.toList = code.toList := by
    refine dashRuns_of_none (fun c hc => ?_) false
    rw [unicode.isLetterOrNumber_ascii c (halnum c hc)]
    rfl
  have hdashes : dashRuns (· == '-') false code.toList = code.toList :=
    dashRuns_of_none (fun c hc => by simpa using hdash c hc) false
  unfold slugPart
  rw [unicode.nfkd_ascii _ halnum, hletters, hdashes, trimDash_of_no_dash hdash, unicode.toLowerCase_ascii _ halnum]

theorem slugPart_plain (unicode : Unicode) {code : String} (h : isPlainCode code = true) :
    slugPart unicode code = code.toList.map Char.toLower :=
  slugPart_alphanum unicode fun c hc => (Bool.and_eq_true_iff.1 (List.all_eq_true.1 h c hc)).1

theorem plain_of_lower {code : String} (h : isPlainCode code = true) :
    (code.toList.map Char.toLower).map Char.toUpper = code.toList := by
  rw [List.map_map]
  refine (List.map_congr_left fun c hc => ?_).trans (List.map_id _)
  have hplain := Bool.and_eq_true_iff.1 (List.all_eq_true.1 h c hc)
  show c.toLower.toUpper = c
  rw [(isAlphanum_case hplain.1).2.2]
  exact beq_iff_eq.1 hplain.2

/-- Two plain codes with one slug are one code. -/
theorem slugPart_inj {unicode : Unicode} {code other : String} (hcode : isPlainCode code = true)
    (hother : isPlainCode other = true) (h : slugPart unicode code = slugPart unicode other) : code = other := by
  rw [slugPart_plain unicode hcode, slugPart_plain unicode hother] at h
  rw [← String.toList_inj, ← plain_of_lower hcode, ← plain_of_lower hother, h]

theorem lower_ne_dash {code : String} (h : isPlainCode code = true) : '-' ∉ code.toList.map Char.toLower := by
  intro hmem
  obtain ⟨c, hc, hlow⟩ := List.mem_map.1 hmem
  have hplain := Bool.and_eq_true_iff.1 (List.all_eq_true.1 h c hc)
  -- Upper case undoes lower case on a plain code, and a dash has neither.
  have hup : c = '-' := by
    have hback := congrArg Char.toUpper hlow
    rw [(isAlphanum_case hplain.1).2.2, beq_iff_eq.1 hplain.2] at hback
    rw [hback]
    decide
  exact isAlphanum_ne_dash hplain.1 hup

theorem append_dash_inj : ∀ {xs ys rest rest' : List Char}, '-' ∉ xs → '-' ∉ ys →
    xs ++ '-' :: rest = ys ++ '-' :: rest' → xs = ys ∧ rest = rest'
  | [], [], _, _, _, _, h => ⟨rfl, (List.cons.inj h).2⟩
  | [], y :: ys, _, _, _, hy, h => by
    rw [List.nil_append, List.cons_append] at h
    exact absurd (List.mem_cons.2 (.inl (List.cons.inj h).1)) hy
  | x :: xs, [], _, _, hx, _, h => by
    rw [List.nil_append, List.cons_append] at h
    exact absurd (List.mem_cons.2 (.inl (List.cons.inj h).1.symm)) hx
  | x :: xs, y :: ys, _, _, hx, hy, h => by
    rw [List.cons_append, List.cons_append] at h
    obtain ⟨rfl, htail⟩ := List.cons.inj h
    rw [List.mem_cons, not_or] at hx hy
    obtain ⟨rfl, hrest⟩ := append_dash_inj hx.2 hy.2 htail
    exact ⟨rfl, hrest⟩

/-- The codes and the number of a name: they are set, and the name is made of the three. -/
theorem repositoryName_ok {unicode : Unicode} {programCode cohortCode : Option String} {no : Option Nat}
    {name : String} (h : repositoryName unicode programCode cohortCode no = .ok name) :
    ∃ program cohort n, programCode = some program ∧ cohortCode = some cohort ∧ no = some n ∧
      name = String.ofList (slugPart unicode program ++ '-' :: (slugPart unicode cohort ++
        '-' :: ("enr".toList ++ (toString n).toList))) := by
  have hempty : slugPart unicode "" = [] := slugPart_plain unicode (by decide)
  unfold repositoryName at h
  simp only at h
  split at h
  · cases h
  · rename_i hprogram
    split at h
    · cases h
    · rename_i hcohort
      cases no with
      | none => cases h
      | some n =>
        simp only at h
        split at h
        · cases h
        · split at h
          · cases h
          · cases h
            cases programCode with
            | none => exact absurd hempty hprogram
            | some program =>
              cases cohortCode with
              | none => exact absurd hempty hcohort
              | some cohort => exact ⟨program, cohort, n, rfl, rfl, rfl, rfl⟩

/-- Plain codes and a number make one name. -/
theorem repositoryName_inj {unicode : Unicode} {program cohort program' cohort' : Option String} {no no' : Option Nat}
    {name : String} (hprogram : ∀ c ∈ program, isPlainCode c = true) (hcohort : ∀ c ∈ cohort, isPlainCode c = true)
    (hprogram' : ∀ c ∈ program', isPlainCode c = true) (hcohort' : ∀ c ∈ cohort', isPlainCode c = true)
    (h : repositoryName unicode program cohort no = .ok name)
    (h' : repositoryName unicode program' cohort' no' = .ok name) :
    program = program' ∧ cohort = cohort' ∧ no = no' := by
  obtain ⟨p, c, n, rfl, rfl, rfl, hname⟩ := repositoryName_ok h
  obtain ⟨p', c', n', rfl, rfl, rfl, hname'⟩ := repositoryName_ok h'
  have hp := hprogram p rfl
  have hc := hcohort c rfl
  have hp' := hprogram' p' rfl
  have hc' := hcohort' c' rfl
  have heq := String.ofList_injective (hname.symm.trans hname')
  rw [slugPart_plain unicode hp, slugPart_plain unicode hp', slugPart_plain unicode hc,
    slugPart_plain unicode hc'] at heq
  obtain ⟨hps, hrest⟩ := append_dash_inj (lower_ne_dash hp) (lower_ne_dash hp') heq
  obtain ⟨hcs, hrest⟩ := append_dash_inj (lower_ne_dash hc) (lower_ne_dash hc') hrest
  have hno := List.append_cancel_left hrest
  refine ⟨?_, ?_, ?_⟩
  · rw [slugPart_inj hp hp' (by rw [slugPart_plain unicode hp, slugPart_plain unicode hp', hps])]
  · rw [slugPart_inj hc hc' (by rw [slugPart_plain unicode hc, slugPart_plain unicode hc', hcs])]
  · have hvalue := congrArg (Nat.ofDigitChars 10 · 0) hno
    simpa using hvalue

namespace Example

/-- The tables on ASCII, where nothing is decomposed. -/
def ascii : Unicode where
  nfkd := id
  isLetterOrNumber := Char.isAlphanum
  toLowerCase := List.map Char.toLower
  nfkd_ascii := fun _ _ => rfl
  isLetterOrNumber_ascii := fun _ h => h
  toLowerCase_ascii := fun _ _ => rfl

end Example

end Livetich.Workspace
