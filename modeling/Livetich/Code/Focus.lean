/-
The mirrored focus of the code gateway, with payloads as they arrive: `onFocus` and `onTabClose`
store what a session's controller has open, and `onJoin` replays it to whoever joins. Every focus
that is stored or replayed names safe files just when every tab-close that is stored does: `onFocus`
checks the paths it is given, `onTabClose` their lengths only, and `nextActive` not at all.

A socket is taken as it stands when it sends: in any room, controlling any session.
-/
import Livetich.Code.Gateway

namespace Livetich.Code.Focus

open TransSys
open Livetich.Sockets (Failure)
open Livetich.Js (Json)

/-! ## The path check of the gateway -/

def isSafeSeedPath (value : String) : Bool :=
  let normalized := forwardSlashes value.toList
  if jsLength normalized = 0 || jsLength normalized > 512 || normalized.head? == some '/' || hasDrive normalized ||
      (normalized.splitOn '/').any fun part => part == [] || part == ['.'] || part == ['.', '.'] then false
  else
    let segments := (toLowerCase normalized).splitOn '/'
    if segments.any fun segment => protectedSegments.any (·.toList == segment) then false
    else
      let fileName := segments.getLastD []
      if templateNames.any (·.toList == fileName) then true
      else
        !(protectedNames.any (·.toList == fileName) || protectedPrefixes.any (·.toList.isPrefixOf fileName) ||
          protectedSuffixes.any (·.toList.isSuffixOf fileName))

/-- The gateway and the document service hold the same paths for safe. -/
theorem isSafeSeedPath_eq (value : String) : isSafeSeedPath value = isFilePath value := by
  unfold isSafeSeedPath isFilePath isSafeDocumentPath isProtectedCodePath
  dsimp only
  split
  · rename_i h
    simp only [Bool.or_eq_true, decide_eq_true_eq, beq_iff_eq] at h
    symm
    rw [Bool.and_eq_false_iff]
    refine .inl ?_
    rcases h with (((h | h) | h) | h) | h
    · simp [h]
    · have hlen : ¬ jsLength (forwardSlashes value.toList) ≤ 512 := by omega
      simp [hlen]
    · simp [h]
    · simp [h]
    · simp only [h, Bool.not_true, Bool.and_false]
  · rename_i h
    simp only [Bool.or_eq_true, decide_eq_true_eq, beq_iff_eq, not_or, Bool.not_eq_true] at h
    obtain ⟨⟨⟨⟨hzero, hlong⟩, hhead⟩, hdrive⟩, hparts⟩ := h
    have hpos : 0 < jsLength (forwardSlashes value.toList) := by omega
    have hshort : jsLength (forwardSlashes value.toList) ≤ 512 := by omega
    simp only [hpos, hshort, hdrive, hparts, decide_true, Bool.true_and, Bool.not_false, Bool.and_true]
    have hne : (forwardSlashes value.toList).head? != some '/' := by simpa using hhead
    rw [hne, Bool.true_and]
    split
    · rfl
    · split
      · rfl
      · rfl

/-! ## Payloads -/

/-- A property of a value; `none` is `undefined`. -/
def field (value : Json) (key : String) : Option Json :=
  match value with
  | .obj entries => (entries.find? (·.1 == key)).map (·.2)
  | _ => none

def isCoordinate : Option Json → Bool
  | some (.num n) => isCodeCoordinate n
  | _ => false

/-- `isSafeCodePosition`. -/
def isPosition (value : Json) : Bool := isCoordinate (field value "line") && isCoordinate (field value "ch")

def isSelection (value : Json) : Bool :=
  (field value "anchor").any isPosition && (field value "active").any isPosition

/-- A string for which `ok` holds. -/
def isText (ok : String → Bool) : Json → Bool
  | .str s => ok s
  | _ => false

/-- An array of at most 1000 strings for which `ok` holds. -/
def isFileList (ok : String → Bool) : Json → Bool
  | .arr items => items.length ≤ 1000 && items.all (isText ok)
  | _ => false

structure FocusMessage where
  sessionId : SessionId
  path : Option Json
  openFiles : Option Json
  cursor : Option Json
  selection : Option Json
  /-- The other properties, which are copied with these. -/
  others : List (String × Json)

structure TabCloseMessage where
  sessionId : SessionId
  nextActive : Option Json
  openFiles : Option Json
  requestId : Option Json

/-- What `setFocus` stores. -/
structure CodeFocus where
  sessionId : SessionId
  controllerUserId : UserId
  isSnapshot : Option Bool
  path : Json
  openFiles : Option Json
  cursor : Option Json
  selection : Option Json
  others : List (String × Json)

/-! ## The handlers -/

/-- `onFocus`: what it stores, if it stores anything. -/
def onFocus (k : CodeSock) (p : FocusMessage) : Except Failure (Option CodeFocus) :=
  asController k p.sessionId "Only the session instructor can control mirrored focus" <|
    match p.path with
    | some (.str path) =>
      if jsLength path.toList > 512 || (path != "" && !isSafeSeedPath path) ||
          !p.openFiles.all (isFileList isSafeSeedPath) || !p.cursor.all isPosition || !p.selection.all isSelection then
        .ok none
      else .ok (some {
        sessionId := p.sessionId
        controllerUserId := k.user.sub
        isSnapshot := some false
        path := .str path
        openFiles := p.openFiles
        cursor := p.cursor
        selection := p.selection
        others := p.others })
    | _ => .ok none

/-- The checks of `onTabClose`. -/
def isTabClose (p : TabCloseMessage) : Bool :=
  p.openFiles.all (isFileList fun file => jsLength file.toList ≤ 512) &&
    p.requestId.all (isText fun id => jsLength id.toList ≤ 128)

/-- `nextActive ?? ''`. -/
def nextPath : Option Json → Json
  | none => .str ""
  | some .null => .str ""
  | some value => value

def onTabClose (k : CodeSock) (p : TabCloseMessage) : Except Failure (Option CodeFocus) :=
  asController k p.sessionId "Only the session instructor can control mirrored tabs" <|
    if !isTabClose p then .ok none
    else .ok (some {
      sessionId := p.sessionId
      controllerUserId := k.user.sub
      isSnapshot := none
      path := nextPath p.nextActive
      openFiles := some (p.openFiles.getD (.arr []))
      cursor := none
      selection := none
      others := [] })

structure State where
  /-- `docsBySession`: the focus of each entry there is. -/
  entries : SessionId → Option (Option CodeFocus)
  /-- What `onJoin` has sent as `code:focus`. -/
  replayed : List CodeFocus

def init : State := ⟨fun _ => none, []⟩

def setFocus (s : State) (sessionId : SessionId) (focus : CodeFocus) : State :=
  if (s.entries sessionId).isSome then
    { s with entries := Function.update s.entries sessionId (some (some focus)) }
  else s

/-- `onJoin` once the caller is let in: `retain` finds or makes the entry, whose focus is replayed. -/
def onJoin (s : State) (sessionId : SessionId) : State :=
  match s.entries sessionId with
  | some (some focus) => { s with replayed := { focus with isSnapshot := some true } :: s.replayed }
  | some none => s
  | none => { s with entries := Function.update s.entries sessionId (some none) }

inductive Event
  | focus (k : CodeSock) (p : FocusMessage)
  | tabClose (k : CodeSock) (p : TabCloseMessage)
  | join (sessionId : SessionId)
  /-- The last client is released. -/
  | release (sessionId : SessionId)

/-- The state after a handler that stores what it returns. -/
def stores (s : State) (sessionId : SessionId) : Except Failure (Option CodeFocus) → State
  | .ok (some focus) => setFocus s sessionId focus
  | _ => s

def step (s : State) : Event → Option State
  | .focus k p => some (stores s p.sessionId (onFocus k p))
  | .tabClose k p => some (stores s p.sessionId (onTabClose k p))
  | .join sessionId => some (onJoin s sessionId)
  | .release sessionId => some { s with entries := Function.update s.entries sessionId none }

/-! ## The property and the condition -/

/-- An empty path, or one of a safe file. -/
def isActivePath : Json → Bool := isText fun path => path == "" || isSafeSeedPath path

/-- An array of safe paths. -/
def areSafeFiles : Json → Bool
  | .arr items => items.all (isText isSafeSeedPath)
  | _ => false

/-- The focus names safe files only. -/
def CodeFocus.isSafe (focus : CodeFocus) : Bool := isActivePath focus.path && focus.openFiles.all areSafeFiles

/-- So does every focus that is stored or has been replayed. -/
structure Mirrors (s : State) : Prop where
  stored : ∀ sessionId focus, s.entries sessionId = some (some focus) → focus.isSafe = true
  replayed : ∀ focus ∈ s.replayed, focus.isSafe = true

/-- A tab-close that passes the checks, from the session's controller, for a session with an entry,
names safe files. -/
def Named (s : State) : Event → Prop
  | .tabClose k p => k.inRoom p.sessionId = true → k.controls p.sessionId = true → isTabClose p = true →
      (s.entries p.sessionId).isSome = true →
      isActivePath (nextPath p.nextActive) = true ∧ p.openFiles.all areSafeFiles = true
  | _ => True

/-! ## What a step does -/

/-- The lists the check lets through hold safe paths. -/
theorem areSafeFiles_of {value : Json} (h : isFileList isSafeSeedPath value = true) : areSafeFiles value = true := by
  cases value with
  | arr items =>
    simp only [isFileList, Bool.and_eq_true] at h
    exact h.2
  | null => cases h
  | bool b => cases h
  | num n => cases h
  | str s => cases h
  | obj entries => cases h

/-- What `onFocus` stores is safe. -/
theorem onFocus_safe {k : CodeSock} {p : FocusMessage} {focus : CodeFocus} (h : onFocus k p = .ok (some focus)) :
    focus.isSafe = true := by
  obtain ⟨-, -, h⟩ := asController_ok_iff.1 h
  split at h
  · rename_i path _
    split at h
    · cases h
    · rename_i hguard
      cases h
      simp only [Bool.or_eq_true, Bool.and_eq_true, Bool.not_eq_true', bne_iff_ne, ne_eq, decide_eq_true_eq, not_or,
        not_and, Bool.not_eq_false] at hguard
      obtain ⟨⟨⟨⟨-, hpath⟩, hfiles⟩, -⟩, -⟩ := hguard
      unfold CodeFocus.isSafe
      rw [Bool.and_eq_true]
      constructor
      · show (path == "" || isSafeSeedPath path) = true
        by_cases hempty : path = ""
        · simp [hempty]
        · simp [hpath hempty]
      · rw [Option.all_eq_true] at hfiles ⊢
        exact fun value hvalue => areSafeFiles_of (hfiles value hvalue)
  · cases h

theorem onTabClose_iff {k : CodeSock} {p : TabCloseMessage} {focus : CodeFocus} :
    onTabClose k p = .ok (some focus) ↔ k.inRoom p.sessionId = true ∧ k.controls p.sessionId = true ∧
      isTabClose p = true ∧ focus = ⟨p.sessionId, k.user.sub, none, nextPath p.nextActive,
        some (p.openFiles.getD (.arr [])), none, none, []⟩ := by
  unfold onTabClose
  rw [asController_ok_iff]
  refine and_congr_right fun _ => and_congr_right fun _ => ?_
  by_cases h : isTabClose p = true
  · simp [h, eq_comm]
  · simp [h]

/-- An entry whose focus is safe may take the place of another, or of none. -/
theorem Mirrors.update {s : State} (h : Mirrors s) (sessionId : SessionId) {entry : Option (Option CodeFocus)}
    (hentry : ∀ focus, entry = some (some focus) → focus.isSafe = true) :
    Mirrors { s with entries := Function.update s.entries sessionId entry } := by
  refine ⟨fun id focus hf => ?_, h.replayed⟩
  dsimp only at hf
  by_cases hid : id = sessionId
  · subst hid
    rw [Function.update_self] at hf
    exact hentry focus hf
  · rw [Function.update_of_ne hid] at hf
    exact h.stored id focus hf

/-- A focus that is stored joins those that are to be safe. -/
theorem mirrors_setFocus {s : State} (h : Mirrors s) {sessionId : SessionId} {focus : CodeFocus} :
    Mirrors (setFocus s sessionId focus) ↔ ((s.entries sessionId).isSome = true → focus.isSafe = true) := by
  unfold setFocus
  split
  · rename_i hentry
    constructor
    · intro hs _
      exact hs.stored sessionId focus (by simp)
    · intro hsafe
      refine h.update sessionId fun f hf => ?_
      cases hf
      exact hsafe hentry
  · rename_i hentry
    exact ⟨fun _ hsome => absurd hsome hentry, fun _ => h⟩

theorem mirrors_onJoin {s : State} (h : Mirrors s) (sessionId : SessionId) : Mirrors (onJoin s sessionId) := by
  unfold onJoin
  split
  · rename_i focus hfocus
    refine ⟨h.stored, fun f hf => ?_⟩
    rcases List.mem_cons.1 hf with rfl | hf
    · exact h.stored sessionId focus hfocus
    · exact h.replayed f hf
  · exact h
  · exact h.update sessionId fun f hf => by cases hf

/-- What a tab-close that is let through stores is safe just when it names safe files. -/
theorem mirrors_tabClose {s : State} (h : Mirrors s) (k : CodeSock) (p : TabCloseMessage) :
    Mirrors (stores s p.sessionId (onTabClose k p)) ↔ Named s (.tabClose k p) := by
  by_cases hstores : k.inRoom p.sessionId = true ∧ k.controls p.sessionId = true ∧ isTabClose p = true
  · obtain ⟨hroom, hcontrols, hchecked⟩ := hstores
    have hr := onTabClose_iff.2 ⟨hroom, hcontrols, hchecked, rfl⟩
    rw [hr]
    show Mirrors (setFocus s p.sessionId _) ↔ _
    rw [mirrors_setFocus h]
    have hsafe : (CodeFocus.mk p.sessionId k.user.sub none (nextPath p.nextActive)
        (some (p.openFiles.getD (.arr []))) none none []).isSafe = true ↔
        isActivePath (nextPath p.nextActive) = true ∧ p.openFiles.all areSafeFiles = true := by
      unfold CodeFocus.isSafe
      rw [Bool.and_eq_true]
      refine and_congr_right fun _ => ?_
      cases p.openFiles with
      | none => simp [areSafeFiles]
      | some value => simp
    rw [hsafe]
    exact ⟨fun hn _ _ _ hentry => hn hentry, fun hn hentry => hn hroom hcontrols hchecked hentry⟩
  · -- nothing is stored
    have hsame : stores s p.sessionId (onTabClose k p) = s := by
      cases hr : onTabClose k p with
      | error f => rfl
      | ok r =>
        cases r with
        | none => rfl
        | some focus =>
          obtain ⟨hroom, hcontrols, hchecked, -⟩ := onTabClose_iff.1 hr
          exact absurd ⟨hroom, hcontrols, hchecked⟩ hstores
    rw [hsame]
    exact ⟨fun _ hroom hcontrols hchecked _ => absurd ⟨hroom, hcontrols, hchecked⟩ hstores, fun _ => h⟩

/-- A step keeps what is mirrored safe just when it is no tab-close with another name. -/
theorem mirrors_step {s s' : State} {e : Event} (h : Mirrors s) (hs : step s e = some s') :
    Mirrors s' ↔ Named s e := by
  cases e with
  | focus k p =>
    cases hs
    refine ⟨fun _ => trivial, fun _ => ?_⟩
    cases hr : onFocus k p with
    | error f => exact h
    | ok r =>
      cases r with
      | none => exact h
      | some focus => exact (mirrors_setFocus h).2 fun _ => onFocus_safe hr
  | tabClose k p =>
    cases hs
    exact mirrors_tabClose h k p
  | join sessionId =>
    cases hs
    exact ⟨fun _ => trivial, fun _ => mirrors_onJoin h sessionId⟩
  | release sessionId =>
    cases hs
    exact ⟨fun _ => trivial, fun _ => h.update sessionId fun f hf => by cases hf⟩

theorem mirrors_init : Mirrors init where
  stored _ _ h := by cases h
  replayed _ h := by cases h

/-- In every run, all that is stored or replayed names safe files just when every tab-close that is
stored does. -/
theorem mirrors_iff {es : List Event} {s : State} (h : run step init es = some s) :
    Meets step Named init es ↔ ∀ es₁ es₂ u, es = es₁ ++ es₂ → run step init es₁ = some u → Mirrors u :=
  meets_iff (I := fun _ => True) (fun _ _ _ _ _ => trivial) (fun _ _ _ _ hs hstep => mirrors_step hs hstep)
    trivial mirrors_init h

instance decidableNamed (s : State) : ∀ e, Decidable (Named s e)
  | .tabClose _ _ => inferInstanceAs (Decidable (_ → _ → _ → _ → _ ∧ _))
  | .focus _ _ => inferInstanceAs (Decidable True)
  | .join _ => inferInstanceAs (Decidable True)
  | .release _ => inferInstanceAs (Decidable True)

namespace Example

/-- The teacher of the session, in its room. -/
def host : CodeSock :=
  ⟨⟨⟨"teacher", .instructor, "Teacher", some "org", none, none⟩, some true, ["session"], []⟩, ["session"], [], none⟩

def opens (path : String) : FocusMessage := ⟨"session", some (.str path), some (.arr [.str path]), none, none, []⟩

def closes (nextActive : String) : TabCloseMessage := ⟨"session", some (.str nextActive), none, none⟩

/-- The teacher opens a file, closes it for another, and a student joins. -/
def orderly : List Event :=
  [.join "session", .focus host (opens "src/main.ts"), .tabClose host (closes "README.md"), .join "session"]

/-- The teacher's client closes a tab beside a secret. -/
def exposing : List Event := [.join "session", .tabClose host (closes ".env"), .join "session"]

end Example

open Example in
theorem orderly_mirrors : (run step init orderly).isSome = true ∧
    ∀ es₁ es₂ u, orderly = es₁ ++ es₂ → run step init es₁ = some u → Mirrors u :=
  have hmeets : Meets step Named init orderly := by decide
  ⟨rfl, (mirrors_iff rfl).1 hmeets⟩

open Example in
/-- A tab-close stores the path of a secret, and whoever joins next is sent it. -/
theorem exposing_not_mirrors : ¬ ∀ es s, run step init es = some s → Mirrors s := by
  intro h
  have hsafe := (h exposing _ rfl).stored "session" _ rfl
  revert hsafe
  decide

end Livetich.Code.Focus
