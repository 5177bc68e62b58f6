/-
A round has one winner as long as winners do not overtake each other: in every run in which a
WINNER is written only while no other handler still holds a passed phase check, each round pays at
most one award and a stored WINNER stays until the next round is opened.

`onQuizAnswer` re-checks the phase and then writes without looking again, so two correct answers,
or a correct answer and the timeout, can both pass their check before either writes; the run after
the theorem shows two winners paid for one round.
-/
import Livetich.Room.Buzzer
import Livetich.Lib.RoundRegister

namespace Livetich.Room.Buzzer

open TransSys
open RoundRegister (Mark Claim)

/-! ## The buzzer as a register of rounds -/

/-- The handler has read the phase open and not yet written what follows from it. -/
def Task.checked : Task → Option Nat
  | .answerClear _ _ r _ => some r
  | .answerWin _ _ r _ => some r
  | .timeoutWrite r _ => some r
  | _ => none

def Task.claim : Task → Option Claim
  | .answerClear _ _ r _ => some (.armed r)
  | .answerWin _ _ r _ => some (.armed r)
  | .timeoutWrite r _ => some (.armed r)
  | .answerAward _ _ r _ => some (.due r)
  | _ => none

def mark : Option (Nat × BuzzerState) → Mark
  | none => .idle
  | some (r, b) =>
    match b.phase with
    | .questionOpen => .opened r
    | .winner => .won r
    | _ => .lapsed r

def abs (s : State) : RoundRegister.State where
  mark := mark s.buzzer
  rounds := s.rounds
  paid := s.pointsLedger.map (·.round)
  claims := fun i => (s.tasks.get i).bind Task.claim

theorem abs_goto (s : State) (i : Nat) (t : Option Task) :
    abs (s.goto i t) = { abs s with claims := (abs s).claims.put i (t.bind Task.claim) } := by
  unfold abs State.goto
  simp only [Pool.get_put, Slots.bind_put]

theorem armed_iff (t : Task) (r : Nat) : t.claim = some (.armed r) ↔ t.checked = some r := by
  cases t <;> simp [Task.claim, Task.checked]

/-! ## The condition -/

def Task.writesWinner : Task → Bool
  | .answerWin .. => true
  | _ => false

/-- A step that writes WINNER is taken while no other handler holds a passed phase check. -/
def LoneWinner (s : State) : Event → Prop
  | .resume i _ => (s.tasks.get i).any Task.writesWinner = true →
      ∀ p ∈ s.tasks.entries, p.1 ≠ i → p.2.checked = none
  | _ => True

instance : ∀ s e, Decidable (LoneWinner s e)
  | s, .resume i _ => inferInstanceAs (Decidable ((s.tasks.get i).any Task.writesWinner = true →
      ∀ p ∈ s.tasks.entries, p.1 ≠ i → p.2.checked = none))
  | _, .buzzerStart .. | _, .quizAnswer .. | _, .fire .. | _, .reject .. | _, .presence .. =>
    inferInstanceAs (Decidable True)

theorem alone_of {s : State} {i now : Nat} {a : Attempt} {q : QuizQuestion} {r : Nat}
    {b : BuzzerState} (hok : LoneWinner s (.resume i now))
    (ht : s.tasks.get i = some (.answerWin a q r b)) : RoundRegister.Alone (abs s) i := by
  intro j hj r' hc
  obtain ⟨t, hjt, hc⟩ := Option.bind_eq_some_iff.1 hc
  have hchecked := hok (by rw [ht]; rfl) (j, t) (Pool.mem_of_get hjt) hj
  rw [armed_iff, hchecked] at hc
  cases hc

/-! ## Every step is a step of the register -/

/-- A step that touches nothing the register sees but its own task, which holds no claim after. -/
theorem drop_step {s : State} {i : Nat} {t : Option Task} (ht : t.bind Task.claim = none) :
    RoundRegister.Step (abs s) (abs (s.goto i t)) := by
  rw [abs_goto, ht]; exact .drop i

theorem mark_opensOn {b : Option (Nat × BuzzerState)} {q : QuestionId} (h : opensOn b q = true) :
    ∃ r st, b = some (r, st) ∧ mark b = .opened r := by
  unfold opensOn at h
  split at h
  · rename_i r st
    simp only [Bool.and_eq_true, beq_iff_eq] at h
    exact ⟨r, st, rfl, by simp [mark, h.1]⟩
  · cases h

theorem resume_step {db : Db} {now : Nat} {s : State} {i : Nat} {t : Task}
    (ht : s.tasks.get i = some t) (hok : LoneWinner s (.resume i now)) :
    RoundRegister.Step (abs s) (abs (resume db now s i t)) := by
  have hclaim : (abs s).claims i = t.claim := by simp [abs, ht]
  cases t with
  | startSession c q =>
    refine drop_step ?_
    cases ownedSession c.user db.session <;> rfl
  | startRead session q =>
    simp only [resume]
    split
    · split <;> exact drop_step rfl
    · exact drop_step rfl
  | startPresence session q =>
    simp only [resume]
    split <;> exact drop_step rfl
  | startQuestion session q eligible =>
    simp only [resume]
    split
    · split <;> exact drop_step rfl
    · exact drop_step rfl
  | startClear question eligible openedAt => exact drop_step (s := { s with answered := [] }) rfl
  | startOpen question eligible openedAt =>
    -- the task itself holds no claim before or after: only the opening is seen
    have : abs (resume db now s i (.startOpen question eligible openedAt)) =
        { abs s with mark := .opened ((abs s).rounds + 1), rounds := (abs s).rounds + 1 } := by
      simp only [resume, abs_goto]
      rw [show ((some (Task.startTimer question)).bind Task.claim) = none from rfl,
        Slots.put_of_eq (by simp [abs, ht, Task.claim])]
      rfl
    rw [this]; exact .opens
  | startTimer question => exact drop_step rfl
  | answerRead a =>
    simp only [resume]
    split
    · split <;> exact drop_step rfl
    · exact drop_step rfl
  | answerMark a =>
    simp only [resume]
    split
    · exact drop_step rfl
    · exact drop_step (s := { s with answered := s.answered ++ [a.client.user.sub] }) rfl
  | answerExpire a added => cases added <;> exact drop_step rfl
  | answerQuestion a =>
    refine drop_step ?_
    cases db.quizQuestion a.questionId <;> rfl
  | answerPersist a question =>
    simp only [resume]
    refine drop_step (s := { s with quizAnswers := _ }) ?_
    split <;> rfl
  | answerRecheck a question =>
    simp only [resume]
    split
    · rename_i r latest hb
      split
      · rename_i hp
        rw [abs_goto]
        exact .arm i r (by simp [abs, hb, mark, hp]) (by rw [hclaim]; rfl)
      · exact drop_step rfl
    · exact drop_step rfl
  | answerClear a question r latest =>
    have : abs (resume db now s i (.answerClear a question r latest)) = abs s := by
      simp only [resume, abs_goto]
      rw [Slots.put_of_eq (by simp [abs, clearTimer, ht, Task.claim])]
      rfl
    rw [this]; exact .skip
  | answerWin a question r latest =>
    have : abs (resume db now s i (.answerWin a question r latest)) =
        { abs s with
          mark := .won r
          claims := (abs s).claims.put i
            (if (awardCourse question).isSome then some (.due r) else none) } := by
      simp only [resume, abs_goto]
      cases awardCourse question <;> rfl
    rw [this]
    exact .win i r _ hclaim (alone_of hok ht)
  | answerAward a question r courseId =>
    have : abs (resume db now s i (.answerAward a question r courseId)) =
        { abs s with paid := (abs s).paid ++ [r], claims := (abs s).claims.put i none } := by
      simp only [resume, abs_goto]
      simp [abs]
    rw [this]; exact .pay i r hclaim
  | timeoutRead q =>
    simp only [resume]
    split
    · rename_i r b hb
      split
      · rename_i hq
        obtain ⟨r', st, hb', hm⟩ := mark_opensOn hq
        obtain rfl : r = r' := by rw [hb] at hb'; cases hb'; rfl
        rw [abs_goto]
        exact .arm i r hm (by rw [hclaim]; rfl)
      · exact drop_step rfl
    · exact drop_step rfl
  | timeoutWrite r b =>
    have : abs (resume db now s i (.timeoutWrite r b)) =
        { abs s with mark := .lapsed r, claims := (abs s).claims.put i none } := by
      simp only [resume, abs_goto]; rfl
    rw [this]; exact .lapse i r hclaim

theorem step_simulates {db : Db} {s s' : State} {e : Event} (hok : LoneWinner s e)
    (h : step db s e = some s') : RoundRegister.Step (abs s) (abs s') := by
  cases e with
  | buzzerStart i c q =>
    unfold step at h
    simp only [Option.ite_none_right_eq_some, Option.some.injEq] at h
    obtain ⟨-, rfl⟩ := h
    split
    · exact drop_step rfl
    · exact .skip
  | quizAnswer i a =>
    unfold step at h
    simp only [Option.ite_none_right_eq_some, Option.some.injEq] at h
    obtain ⟨-, rfl⟩ := h
    split
    · exact drop_step rfl
    · exact .skip
  | fire i t =>
    unfold step at h
    simp only [Option.ite_none_right_eq_some, Option.map_eq_some_iff] at h
    obtain ⟨-, p, -, rfl⟩ := h
    exact drop_step (s := { s with timeouts := _, buzzerTimers := none }) rfl
  | resume i now =>
    obtain ⟨t, ht, rfl⟩ := Option.map_eq_some_iff.1 h
    exact resume_step ht hok
  | reject i =>
    obtain ⟨t, ht, rfl⟩ := Option.map_eq_some_iff.1 h
    exact drop_step rfl
  | presence users =>
    cases h
    exact .skip

theorem init_inv (users : List RoomUser) : RoundRegister.Inv (abs (init users)) := by
  refine ⟨List.nodup_nil, ?_, ?_, ?_, ?_, ?_, ?_, ?_⟩ <;>
    simp [abs, init, mark, RoundRegister.Settled]

/-- Runs of the handlers keep the register's invariant. -/
theorem run_inv {db : Db} {users : List RoomUser} {es : List Event} {s : State}
    (hok : Meets (step db) LoneWinner (init users) es)
    (h : run (step db) (init users) es = some s) : RoundRegister.Inv (abs s) :=
  TransSys.run_inv (I := fun s => RoundRegister.Inv (abs s))
    (fun _ _ _ hi hok h => hi.step (step_simulates hok h)) (init_inv users) hok h

/-! ## One winner a round -/

/-- Round `r` has produced at most one award. -/
def PaysOnce (s : State) : Prop := ∀ r, s.pointsLedger.countP (·.round == r) ≤ 1

/-- A stored WINNER is left as it is, or replaced by an open question. -/
def WinnerStays (s s' : State) : Prop :=
  ∀ r b, s.buzzer = some (r, b) → b.phase = .winner →
    s'.buzzer = s.buzzer ∨ ∃ q b', s'.buzzer = some (q, b') ∧ b'.phase = .questionOpen

/-- What a step does to the stored value: nothing, an opening, or the write of a handler that
holds a passed check. -/
theorem buzzer_step {db : Db} {s s' : State} {e : Event} (h : step db s e = some s') :
    s'.buzzer = s.buzzer ∨
    (∃ r b, s'.buzzer = some (r, b) ∧ b.phase = .questionOpen) ∨
    ∃ i r, (abs s).claims i = some (.armed r) := by
  cases e with
  | buzzerStart i c q =>
    unfold step at h
    simp only [Option.ite_none_right_eq_some, Option.some.injEq] at h
    obtain ⟨-, rfl⟩ := h
    left; split <;> rfl
  | quizAnswer i a =>
    unfold step at h
    simp only [Option.ite_none_right_eq_some, Option.some.injEq] at h
    obtain ⟨-, rfl⟩ := h
    left; split <;> rfl
  | fire i t =>
    unfold step at h
    simp only [Option.ite_none_right_eq_some, Option.map_eq_some_iff] at h
    obtain ⟨-, p, -, rfl⟩ := h
    exact .inl rfl
  | resume i now =>
    obtain ⟨t, ht, rfl⟩ := Option.map_eq_some_iff.1 h
    have hclaim : (abs s).claims i = t.claim := by simp [abs, ht]
    cases t with
    | startOpen question eligible openedAt => exact .inr (.inl ⟨_, _, rfl, rfl⟩)
    | answerWin a question r latest => exact .inr (.inr ⟨i, r, hclaim⟩)
    | timeoutWrite r b => exact .inr (.inr ⟨i, r, hclaim⟩)
    | _ =>
      left
      simp only [resume]
      repeat (first | rfl | split)
  | reject i =>
    obtain ⟨t, ht, rfl⟩ := Option.map_eq_some_iff.1 h
    exact .inl rfl
  | presence users =>
    cases h
    exact .inl rfl

theorem winnerStays_step {db : Db} {s s' : State} {e : Event} (hi : RoundRegister.Inv (abs s))
    (h : step db s e = some s') : WinnerStays s s' := by
  intro r b hb hp
  rcases buzzer_step h with heq | hopen | ⟨i, q, hq⟩
  · exact .inl heq
  · exact .inr hopen
  · have hwon : (abs s).mark = .won r := by simp [abs, mark, hb, hp]
    exact absurd hq (hi.wonQuiet r hwon i q)

/-- In every run in which WINNER is written only while no other handler holds a passed phase
check, each round pays at most one award, and no step from the state reached replaces a stored
winner except by opening the next round. -/
theorem buzzer_single_winner (db : Db) (users : List RoomUser) (es : List Event) (s : State)
    (hok : Meets (step db) LoneWinner (init users) es)
    (h : run (step db) (init users) es = some s) :
    PaysOnce s ∧ ∀ e s', step db s e = some s' → WinnerStays s s' := by
  have hi := run_inv hok h
  refine ⟨fun r => ?_, fun e s' he => winnerStays_step hi he⟩
  have := hi.count_paid_le r
  simpa [abs, List.count, List.countP_map, Function.comp_def] using this

/-! ## Two students answer one question -/

namespace Example

def teacher : Client := ⟨⟨"t", .instructor, "Teacher", some "org", none, none⟩, false, true⟩
def amina : Client := ⟨⟨"a", .student, "Amina", some "org", none, none⟩, false, true⟩
def bilal : Client := ⟨⟨"b", .student, "Bilal", some "org", none, none⟩, false, true⟩

def question : QuizQuestion where
  id := "q1"
  body := "2 + 2"
  options := ["3", "4"]
  correctIndex := 1
  timeLimitSec := 60
  points := 25
  quiz := ⟨none, some "course", none, none⟩

def db : Db where
  session := some ⟨"s", .live, ⟨"course", some "t", some "org", none⟩⟩
  quizQuestion := fun q => if q = "q1" then some question else none

def users : List RoomUser := [roomUser amina.user false, roomUser bilal.user false]

/-- The instructor opens question `q1`: task 0, seven awaited calls. -/
def opening : List Event := .buzzerStart 0 teacher "q1" :: List.replicate 7 (.resume 0 0)

def answer (i : Nat) (c : Client) (calls : Nat) : List Event :=
  .quizAnswer i ⟨c, "q1", 1⟩ :: List.replicate calls (.resume i 0)

/-- Both students answer correctly, both re-checks read the question open, then both write. -/
def race : List Event :=
  opening ++ answer 1 amina 6 ++ answer 2 bilal 6 ++
    [.resume 1 0, .resume 2 0, .resume 1 0, .resume 2 0, .resume 1 0, .resume 2 0]

/-- The same answers, but the first has won before the second re-checks the phase. -/
def inTurn : List Event :=
  opening ++ answer 1 amina 6 ++ answer 2 bilal 5 ++
    [.resume 1 0, .resume 1 0, .resume 2 0, .resume 1 0]

end Example

open Example in
theorem inTurn_single_winner :
    ((run (step db) (init users) inTurn).map fun s => s.pointsLedger.map (·.studentId)) = some ["a"] ∧
    ∀ s, run (step db) (init users) inTurn = some s →
      PaysOnce s ∧ ∀ e s', step db s e = some s' → WinnerStays s s' :=
  ⟨by decide, fun s h => buzzer_single_winner db users inTurn s (by decide) h⟩

open Example in
theorem race_pays_twice :
    ¬ ∀ (db : Db) (users : List RoomUser) (es : List Event) (s : State),
      run (step db) (init users) es = some s →
        PaysOnce s ∧ ∀ e s', step db s e = some s' → WinnerStays s s' := by
  intro h
  have hrun : ((run (step db) (init users) race).map fun s => s.pointsLedger.countP (·.round == 1)) =
      some 2 := by decide
  obtain ⟨s, hs, hcount⟩ := Option.map_eq_some_iff.1 hrun
  have := (h db users race s hs).1 1
  omega

end Livetich.Room.Buzzer
