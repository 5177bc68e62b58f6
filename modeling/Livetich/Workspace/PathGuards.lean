/-
The three path guards side by side: `isSafeSeedPath` of the code gateway, `isSafeDocumentPath` with
`isProtectedCodePath` of the document service, and `isCourseSyncPath` of the course update. They hold
the same shapes and the same names for unsafe; the course update leaves out generated directories
besides, and it alone takes a path of any length.
-/
import Livetich.Code.Focus
import Livetich.Workspace.SafeMerge

namespace Livetich.Workspace

open Livetich.Code (jsLength forwardSlashes toLowerCase hasDrive isSafeDocumentPath isProtectedCodePath isFilePath
  protectedSegments)
open Livetich.Code.Focus (isSafeSeedPath isSafeSeedPath_eq)

/-! ## What the guards have in common -/

/-- A path that is relative and goes nowhere but down. -/
def isRelativePath (value : String) : Bool :=
  let path := forwardSlashes value.toList
  path ≠ [] && path.head? ≠ some '/' && !hasDrive path &&
    !(path.splitOn '/').any fun part => part == [] || part == ['.'] || part == ['.', '.']

theorem jsLength_pos {s : List Char} : 0 < jsLength s ↔ s ≠ [] := by
  cases s with
  | nil => simp [jsLength]
  | cons c s =>
    unfold jsLength
    rw [List.map_cons, List.sum_cons]
    constructor
    · intro _ h
      cases h
    · intro _
      split
      · omega
      · omega

theorem isSafeDocumentPath_iff (value : String) : isSafeDocumentPath value = true ↔
    isRelativePath value = true ∧ jsLength (forwardSlashes value.toList) ≤ 512 := by
  unfold isSafeDocumentPath isRelativePath
  simp only [Bool.and_eq_true, decide_eq_true_eq, jsLength_pos, bne_iff_ne]
  constructor
  · rintro ⟨⟨⟨⟨hne, hlen⟩, hhead⟩, hdrive⟩, hparts⟩
    exact ⟨⟨⟨⟨hne, hhead⟩, hdrive⟩, hparts⟩, hlen⟩
  · rintro ⟨⟨⟨⟨hne, hhead⟩, hdrive⟩, hparts⟩, hlen⟩
    exact ⟨⟨⟨⟨hne, hlen⟩, hhead⟩, hdrive⟩, hparts⟩

/-- Every segment that is protected is left out of a course update too. -/
theorem protectedSegments_excluded (part : List Char) (h : protectedSegments.any (·.toList == part) = true) :
    excludedSegments.any (·.toList == part) = true := by
  obtain ⟨name, hname, heq⟩ := List.any_eq_true.1 h
  refine List.any_eq_true.2 ⟨name, ?_, heq⟩
  have hsub : ∀ name ∈ protectedSegments, name ∈ excludedSegments := by decide
  exact hsub name hname

/-- What a course update takes over is a relative path that is not protected. -/
theorem isCourseSyncPath_ok {value : String} (h : isCourseSyncPath value = true) :
    isRelativePath value = true ∧ isProtectedCodePath value = false := by
  unfold isCourseSyncPath at h
  dsimp only at h
  split at h
  · cases h
  rename_i hshape
  split at h
  · cases h
  rename_i hsegments
  constructor
  · unfold isRelativePath
    simp only [Bool.or_eq_true, decide_eq_true_eq, not_or, Bool.not_eq_true] at hshape
    obtain ⟨⟨⟨hne, hhead⟩, hdrive⟩, hparts⟩ := hshape
    dsimp only
    rw [hparts]
    simp [hne, hhead, hdrive]
  · unfold isProtectedCodePath
    dsimp only
    rw [if_neg]
    · split
      · rfl
      · rename_i htemplate
        rw [if_neg htemplate] at h
        simpa using h
    · intro hprotected
      obtain ⟨part, hpart, hsegment⟩ := List.any_eq_true.1 hprotected
      exact hsegments (List.any_eq_true.2 ⟨part, hpart, protectedSegments_excluded part hsegment⟩)

/-! ## Agreement -/

/-- The gateway takes what the document service takes, and both take what a course update does. -/
structure GuardsAgree (value : String) : Prop where
  shared : isSafeSeedPath value = true ↔ isSafeDocumentPath value = true ∧ isProtectedCodePath value = false
  course : isCourseSyncPath value = true → isSafeSeedPath value = true

/-- The guards agree on every path but those a course update takes over and the editor finds too long. -/
theorem guardsAgree_iff (value : String) : GuardsAgree value ↔
    jsLength (forwardSlashes value.toList) ≤ 512 ∨ isCourseSyncPath value = false := by
  have hshared : isSafeSeedPath value = true ↔
      isSafeDocumentPath value = true ∧ isProtectedCodePath value = false := by
    rw [isSafeSeedPath_eq]
    unfold isFilePath
    rw [Bool.and_eq_true, Bool.not_eq_true']
  constructor
  · intro h
    by_cases hsync : isCourseSyncPath value = true
    · have hsafe := (hshared.1 (h.course hsync)).1
      exact .inl ((isSafeDocumentPath_iff value).1 hsafe).2
    · exact .inr (by simpa using hsync)
  · intro h
    refine ⟨hshared, fun hsync => ?_⟩
    obtain ⟨hrelative, hfree⟩ := isCourseSyncPath_ok hsync
    rcases h with hlen | hno
    · exact hshared.2 ⟨(isSafeDocumentPath_iff value).2 ⟨hrelative, hlen⟩, hfree⟩
    · rw [hsync] at hno
      cases hno

namespace Example

/-- A source file in a directory whose name is 510 characters long. -/
def deepPath : List Char := List.replicate 510 'd' ++ ['/', 'a', '.', 't', 's']

def deep : String := String.ofList deepPath

end Example

open Example in
/-- A course update takes over a path that the editor refuses. -/
theorem deep_disagrees : ¬ ∀ value, GuardsAgree value := by
  intro h
  have hchars : deep.toList = deepPath := String.toList_ofList
  have hlong : jsLength (forwardSlashes deep.toList) = 515 := by
    rw [hchars]
    decide +kernel
  have hsync : isCourseSyncPath deep = true := by
    unfold isCourseSyncPath
    rw [hchars]
    decide +kernel
  have hagree := (guardsAgree_iff deep).1 (h deep)
  rw [hlong, hsync] at hagree
  exact absurd hagree (by decide)

end Livetich.Workspace
