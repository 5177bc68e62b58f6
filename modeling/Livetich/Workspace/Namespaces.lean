/-
The two families of repository names that share one flat namespace (`repositoryName` and
`competitionRepositoryName`), for the codes that the API accepts. A name is read back at its dashes, so a program's
names are its own and no competition's, unless the program's code is the word that competitions begin with.
-/
import Livetich.Workspace.Names

namespace Livetich.Workspace

open Livetich.Code (jsLength)
open Livetich.Courses (matchesCode isAlphanum_lt)

/-! ## Names of competitions -/

/-- `competitionRepositoryName`: the name, or the message of a `RepoNameError`. -/
def competitionRepositoryName (unicode : Unicode) (competitionCode : Option String) (enrollmentNo : Option Nat) :
    Except String String :=
  let code := slugPart unicode (competitionCode.getD "")
  if code = [] then .error "The competition needs a short code"
  else
    match enrollmentNo with
    | none => .error "This entrant has no number yet"
    | some no =>
      if no = 0 then .error "This entrant has no number yet"
      else
        let name := "cmp".toList ++ '-' :: (code ++ '-' :: ("enr".toList ++ (toString no).toList))
        if maxRepoName < jsLength name then
          .error ("Repository name \"" ++ String.ofList name ++ "\" is longer than GitHub allows")
        else .ok (String.ofList name)

theorem competitionRepositoryName_ok {unicode : Unicode} {competitionCode : Option String} {no : Option Nat}
    {name : String} (h : competitionRepositoryName unicode competitionCode no = .ok name) :
    ∃ rest, name = String.ofList ("cmp".toList ++ '-' :: rest) := by
  unfold competitionRepositoryName at h
  simp only at h
  split at h
  · cases h
  · cases no with
    | none => cases h
    | some n =>
      simp only at h
      split at h
      · cases h
      · split at h
        · cases h
        · cases h
          exact ⟨_, rfl⟩

/-! ## Codes of the API -/

/-- Two codes that differ at most in case have one of these. -/
def caseless (code : String) : List Char := code.toList.map Char.toLower

/-- `[a-z0-9-]`. -/
def isNameChar (c : Char) : Bool := c.isLower || c.isDigit || c == '-'

/-- From here on a number is printed with an exponent; what an `Int` column holds is far smaller. -/
def exponentFrom : Nat := 10 ^ 21

theorem matchesCode_spec {code : String} (h : matchesCode code = true) :
    2 ≤ code.toList.length ∧ code.toList.length ≤ 16 ∧ ∀ c ∈ code.toList, c.isAlphanum = true := by
  unfold matchesCode at h
  simp only [Bool.and_eq_true, decide_eq_true_eq, List.all_eq_true] at h
  rw [String.length_toList]
  exact ⟨h.1.1, h.1.2, h.2⟩

theorem slugPart_code (unicode : Unicode) {code : String} (h : matchesCode code = true) :
    slugPart unicode code = caseless code :=
  slugPart_alphanum unicode (matchesCode_spec h).2.2

/-- A letter or a digit in lower case. -/
theorem isAlphanum_toLower {c : Char} (h : c.isAlphanum = true) :
    (c.toLower.isLower || c.toLower.isDigit) = true ∧ c.toLower ≠ '-' := by
  have hall : ∀ n : Fin 128, (Char.ofNat n).isAlphanum = true →
      ((Char.ofNat n).toLower.isLower || (Char.ofNat n).toLower.isDigit) = true ∧ (Char.ofNat n).toLower ≠ '-' := by
    decide
  have hc := hall ⟨c.toNat, isAlphanum_lt h⟩
  rw [Char.ofNat_toNat] at hc
  exact hc h

theorem caseless_chars {code : String} (h : matchesCode code = true) :
    ∀ c ∈ caseless code, (c.isLower || c.isDigit) = true ∧ c ≠ '-' := by
  intro c hc
  obtain ⟨d, hd, rfl⟩ := List.mem_map.1 hc
  exact isAlphanum_toLower ((matchesCode_spec h).2.2 d hd)

theorem caseless_no_dash {code : String} (h : matchesCode code = true) : '-' ∉ caseless code := fun hc =>
  (caseless_chars h '-' hc).2 rfl

theorem caseless_length {code : String} (h : matchesCode code = true) :
    2 ≤ (caseless code).length ∧ (caseless code).length ≤ 16 := by
  obtain ⟨hmin, hmax, -⟩ := matchesCode_spec h
  unfold caseless
  rw [List.length_map]
  exact ⟨hmin, hmax⟩

theorem caseless_ne_nil {code : String} (h : matchesCode code = true) : caseless code ≠ [] := by
  intro hnil
  have := (caseless_length h).1
  simp [hnil] at this

/-! ## A name and its parts -/

/-- The characters of a name for codes of the API. -/
def nameOf (program cohort : String) (no : Nat) : List Char :=
  caseless program ++ '-' :: (caseless cohort ++ '-' :: ("enr".toList ++ (toString no).toList))

theorem isDigit_toString {no : Nat} : ∀ c ∈ (toString no).toList, c.isDigit = true := by
  intro c hc
  rw [Nat.toString_eq_repr, Nat.toList_repr] at hc
  exact Nat.isDigit_of_mem_toDigits (by decide) (by decide) hc

theorem length_toString {no : Nat} (h : no < exponentFrom) : (toString no).toList.length ≤ 21 := by
  rw [Nat.toString_eq_repr, Nat.toList_repr, Nat.length_toDigits_le_iff (by decide) (by decide)]
  exact h

theorem nameOf_chars {program cohort : String} (hprogram : matchesCode program = true)
    (hcohort : matchesCode cohort = true) (no : Nat) : ∀ c ∈ nameOf program cohort no, isNameChar c = true := by
  have hcode : ∀ {code : String}, matchesCode code = true → ∀ c ∈ caseless code, isNameChar c = true := by
    intro code hmatch c hc
    unfold isNameChar
    rw [(caseless_chars hmatch c hc).1, Bool.true_or]
  intro c hc
  unfold nameOf at hc
  simp only [List.mem_append, List.mem_cons] at hc
  rcases hc with hc | rfl | hc | rfl | hc | hc
  · exact hcode hprogram c hc
  · rfl
  · exact hcode hcohort c hc
  · rfl
  · have henr : "enr".toList.all isNameChar = true := by decide
    exact List.all_eq_true.1 henr c hc
  · unfold isNameChar
    rw [isDigit_toString c hc, Bool.or_true, Bool.true_or]

theorem isNameChar_lt {c : Char} (h : isNameChar c = true) : c.toNat < 0x10000 := by
  unfold isNameChar at h
  rw [Bool.or_eq_true, beq_iff_eq] at h
  rcases h with h | rfl
  · have halnum : c.isAlphanum = true := by
      unfold Char.isAlphanum Char.isAlpha
      rcases Bool.or_eq_true_iff.1 h with h | h <;> simp [h]
    have := isAlphanum_lt halnum
    omega
  · decide

theorem jsLength_chars : ∀ {cs : List Char}, (∀ c ∈ cs, isNameChar c = true) → jsLength cs = cs.length
  | [], _ => rfl
  | c :: cs, h => by
    rw [List.forall_mem_cons] at h
    have ih := jsLength_chars h.2
    unfold jsLength at ih ⊢
    rw [List.map_cons, List.sum_cons, ih, if_pos (isNameChar_lt h.1), List.length_cons, Nat.add_comm]

theorem nameOf_length {program cohort : String} (hprogram : matchesCode program = true)
    (hcohort : matchesCode cohort = true) {no : Nat} (hno : no < exponentFrom) :
    (nameOf program cohort no).length ≤ maxRepoName := by
  have hp := (caseless_length hprogram).2
  have hc := (caseless_length hcohort).2
  have hn := length_toString hno
  unfold nameOf maxRepoName
  simp only [List.length_append, List.length_cons]
  have henr : "enr".toList.length = 3 := rfl
  omega

/-- A name of codes of the API, wherever it is not too long. -/
theorem repositoryName_iff {unicode : Unicode} {program cohort : String} {no : Nat} {name : String}
    (hprogram : matchesCode program = true) (hcohort : matchesCode cohort = true) :
    repositoryName unicode (some program) (some cohort) (some no) = .ok name ↔
      no ≠ 0 ∧ jsLength (nameOf program cohort no) ≤ maxRepoName ∧ name = String.ofList (nameOf program cohort no) := by
  unfold repositoryName
  simp only [Option.getD_some, slugPart_code unicode hprogram, slugPart_code unicode hcohort,
    if_neg (caseless_ne_nil hprogram), if_neg (caseless_ne_nil hcohort)]
  show (if no = 0 then _ else if maxRepoName < jsLength (nameOf program cohort no) then _ else _) = _ ↔ _
  by_cases hzero : no = 0
  · simp [hzero]
  · by_cases hlong : maxRepoName < jsLength (nameOf program cohort no)
    · simp only [if_neg hzero, if_pos hlong]
      constructor
      · intro h
        cases h
      · rintro ⟨-, hshort, -⟩
        omega
    · simp only [if_neg hzero, if_neg hlong]
      constructor
      · intro h
        cases h
        exact ⟨hzero, by omega, rfl⟩
      · rintro ⟨-, -, rfl⟩
        rfl

theorem nameOf_inj {program cohort program' cohort' : String} {no no' : Nat} (hprogram : matchesCode program = true)
    (hcohort : matchesCode cohort = true) (hprogram' : matchesCode program' = true)
    (hcohort' : matchesCode cohort' = true) (h : nameOf program cohort no = nameOf program' cohort' no') :
    caseless program = caseless program' ∧ caseless cohort = caseless cohort' ∧ no = no' := by
  unfold nameOf at h
  obtain ⟨hp, hrest⟩ := append_dash_inj (caseless_no_dash hprogram) (caseless_no_dash hprogram') h
  obtain ⟨hc, hrest⟩ := append_dash_inj (caseless_no_dash hcohort) (caseless_no_dash hcohort') hrest
  have hno := congrArg (Nat.ofDigitChars 10 · 0) (List.append_cancel_left hrest)
  exact ⟨hp, hc, by simpa using hno⟩

/-! ## The two namespaces -/

/-- What a student's repository may rely on: the name is made, GitHub takes it, no other place in a program has it,
and no competition does. -/
structure OwnName (unicode : Unicode) (program cohort : String) (no : Nat) (name : String) : Prop where
  made : repositoryName unicode (some program) (some cohort) (some no) = .ok name
  short : jsLength name.toList ≤ maxRepoName
  safe : ∀ c ∈ name.toList, isNameChar c = true
  own : ∀ program' cohort' no', matchesCode program' = true → matchesCode cohort' = true →
    repositoryName unicode (some program') (some cohort') (some no') = .ok name →
    caseless program = caseless program' ∧ caseless cohort = caseless cohort' ∧ no = no'
  apart : ∀ competitionCode no', competitionRepositoryName unicode competitionCode no' ≠ .ok name

theorem ownName_iff (unicode : Unicode) {program cohort : String} {no : Nat} (hprogram : matchesCode program = true)
    (hcohort : matchesCode cohort = true) (hpos : 0 < no) (hno : no < exponentFrom) :
    (∃ name, OwnName unicode program cohort no name) ↔ caseless program ≠ "cmp".toList := by
  have hchars := nameOf_chars hprogram hcohort no
  have hshort : jsLength (nameOf program cohort no) ≤ maxRepoName := by
    rw [jsLength_chars hchars]
    exact nameOf_length hprogram hcohort hno
  constructor
  · rintro ⟨name, hname⟩ hcmp
    obtain ⟨-, -, rfl⟩ := (repositoryName_iff hprogram hcohort).1 hname.made
    refine hname.apart (some cohort) (some no) ?_
    have hzero : no ≠ 0 := by omega
    have hname : nameOf program cohort no =
        "cmp".toList ++ '-' :: (caseless cohort ++ '-' :: ("enr".toList ++ (toString no).toList)) := by
      unfold nameOf
      rw [hcmp]
    unfold competitionRepositoryName
    simp only [Option.getD_some, slugPart_code unicode hcohort, if_neg (caseless_ne_nil hcohort), if_neg hzero]
    rw [← hname, if_neg (by omega)]
  · intro hcmp
    refine ⟨String.ofList (nameOf program cohort no), ?_, ?_, ?_, ?_, ?_⟩
    · exact (repositoryName_iff hprogram hcohort).2 ⟨by omega, hshort, rfl⟩
    · rw [String.toList_ofList]
      exact hshort
    · rw [String.toList_ofList]
      exact hchars
    · intro program' cohort' no' hprogram' hcohort' hname
      obtain ⟨-, -, heq⟩ := (repositoryName_iff hprogram' hcohort').1 hname
      exact nameOf_inj hprogram hcohort hprogram' hcohort' (String.ofList_injective heq)
    · intro competitionCode no' hname
      obtain ⟨rest, heq⟩ := competitionRepositoryName_ok hname
      have hdash := append_dash_inj (caseless_no_dash hprogram) (by decide) (String.ofList_injective heq)
      exact hcmp hdash.1

open Example in
theorem fe_own_name : ∃ name, OwnName ascii "FE" "SEP26" 1042 name :=
  (ownName_iff ascii (by decide) (by decide) (by decide) (by decide)).2 (by decide)

open Example in
/-- The first student of a program with the code "CMP" is given the repository of a competition's first entrant. -/
theorem cmp_shared_name :
    matchesCode "CMP" = true ∧ matchesCode "FC26" = true ∧
      repositoryName ascii (some "CMP") (some "FC26") (some 1) = .ok "cmp-fc26-enr1" ∧
      competitionRepositoryName ascii (some "FC26") (some 1) = .ok "cmp-fc26-enr1" ∧
      ¬ ∃ name, OwnName ascii "CMP" "FC26" 1 name := by
  have hname : repositoryName ascii (some "CMP") (some "FC26") (some 1) = .ok "cmp-fc26-enr1" := by decide
  have hcompetition : competitionRepositoryName ascii (some "FC26") (some 1) = .ok "cmp-fc26-enr1" := by
    decide
  refine ⟨by decide, by decide, hname, hcompetition, ?_⟩
  rintro ⟨name, hown⟩
  have hmade := hown.made
  rw [hname] at hmade
  cases hmade
  exact hown.apart _ _ hcompetition

end Livetich.Workspace
