/-
Attempts belong to their round, as long as no answer is under way across a change of rounds: the marks of
a round are cleared only when its question is closed and every answer let into it has made its mark, and
the next question is opened only when every correct one has had its re-check.

The handlers keep no record of rounds; a log beside the state, which no handler reads, says which round
each answer was let into, which attempts counted, and who won what.
-/
import Livetich.Room.BuzzerWinner

namespace Livetich.Room.Buzzer

open TransSys

/-! ## What is seen of the handlers -/

/-- A question opened, with its round and who may answer. -/
structure Opening where
  round : Nat
  questionId : QuestionId
  eligible : List UserId
  deriving DecidableEq

/-- A WINNER written: the answer it is for, and the question shown with it. -/
structure Win where
  round : Nat
  attempt : Attempt
  shown : Option QuestionId
  deriving DecidableEq

structure Log where
  opened : List Opening
  /-- The round whose question the first check of an answer's handler saw. -/
  seen : Slots Nat
  /-- The attempts that counted, and those refused as a second one. -/
  allowed : List (Nat × UserId)
  refused : List (Nat × UserId)
  wins : List Win

def Log.empty : Log := ⟨[], fun _ => none, [], [], []⟩

def observe (s : State) (i : Nat) (g : Log) : Task → Log
  | .startOpen question eligible _ =>
    { g with opened := ⟨s.rounds + 1, question.id, eligible.map (·.userId)⟩ :: g.opened }
  | .answerRead _ => { g with seen := g.seen.put i (s.buzzer.map (·.1)) }
  | .answerMark a =>
    match g.seen i with
    | some r =>
      if a.client.user.sub ∈ s.answered then { g with refused := (r, a.client.user.sub) :: g.refused }
      else { g with allowed := (r, a.client.user.sub) :: g.allowed }
    | none => g
  | .answerWin a _ round latest =>
    { g with wins := ⟨round, a, latest.question.map (·.questionId)⟩ :: g.wins }
  | _ => g

/-- A step of the handlers, with what is seen of it. -/
def watch (db : Db) (x : State × Log) (e : Event) : Option (State × Log) :=
  (step db x.1 e).map fun s => (s, match e with
    | .resume i _ => (x.1.tasks.get i).elim x.2 (observe x.1 i x.2)
    | _ => x.2)

theorem run_watch (db : Db) : ∀ (es : List Event) (s : State) (g : Log),
    (run (watch db) (s, g) es).map (·.1) = run (step db) s es
  | [], _, _ => rfl
  | e :: es, s, g => by
    unfold run watch
    cases step db s e with
    | none => rfl
    | some s' => exact run_watch db es s' _

/-! ## When no answer is under way across a change of rounds -/

/-- An answer let into a round, whose re-check may still be ahead. -/
def Task.awaits : Task → Option Attempt
  | .answerMark a | .answerExpire a true | .answerQuestion a | .answerRecheck a _ => some a
  | .answerPersist a question => if isCorrect question a.answerIndex then some a else none
  | _ => none

def Task.marks : Task → Bool
  | .answerMark _ => true
  | _ => false

/-- A start between its clearing of the marks and its opening. -/
def Task.opens : Task → Option Unit
  | .startOpen .. => some ()
  | _ => none

def isOpen (s : State) : Bool := s.buzzer.any fun b => b.2.phase == .questionOpen

/-- Marks are cleared only while no question is open, no other start has cleared them and not yet opened,
and no answer has its mark ahead; a question is opened only while no correct answer has its re-check
ahead. -/
def roundsApart (s : State) : Event → Bool
  | .resume i _ => match s.tasks.get i with
    | some (.startClear ..) => !isOpen s && s.tasks.vacant Task.opens i () && s.tasks.entries.all fun p => !p.2.marks
    | some (.startOpen ..) => s.tasks.entries.all fun p => p.2.awaits.isNone
    | _ => true
  | _ => true

/-! ## The invariant -/

/-- The stored value is that of an opening. -/
def Shows (b : BuzzerState) (o : Opening) : Prop :=
  b.question.map (·.questionId) = some o.questionId ∧ b.eligibleUserIds = o.eligible

/-- The attempt is to the question of the opening, by a student who may answer it. -/
def Entitled (o : Opening) (a : Attempt) : Prop :=
  o.questionId = a.questionId ∧ a.client.user.sub ∈ o.eligible

/-- The answer is the right one to its question. -/
def Right (db : Db) (a : Attempt) : Prop :=
  ∃ q, db.quizQuestion a.questionId = some q ∧ isCorrect q a.answerIndex = true

/-- The attempt was let into the last round. -/
def Held (s : State) (g : Log) (i : Nat) (a : Attempt) : Prop :=
  g.seen i = some s.rounds ∧ ∃ o ∈ g.opened, o.round = s.rounds ∧ Entitled o a

/-- The attempt wins round `r`, whose question is shown. -/
def Due (db : Db) (g : Log) (a : Attempt) (r : Nat) (b : BuzzerState) : Prop :=
  Right db a ∧ ∃ o ∈ g.opened, o.round = r ∧ Shows b o ∧ Entitled o a

def TaskOk (db : Db) (s : State) (g : Log) (i : Nat) : Task → Prop
  | .answerMark a | .answerExpire a true | .answerQuestion a => Held s g i a
  | .answerPersist a q => db.quizQuestion a.questionId = some q ∧ (isCorrect q a.answerIndex = true → Held s g i a)
  | .answerRecheck a _ => Right db a ∧ Held s g i a
  | .answerClear a _ r b | .answerWin a _ r b => Due db g a r b
  | _ => True

/-- Attempts may be marked. -/
def Running (s : State) : Prop := isOpen s = true ∨ ∃ i a, s.tasks.get i = some (.answerMark a)

structure Fair (db : Db) (s : State) (g : Log) : Prop where
  numbered : ∀ o ∈ g.opened, o.round ≤ s.rounds
  once : (g.opened.map (·.round)).Nodup
  /-- An open question is that of the last round. -/
  current : ∀ r b, s.buzzer = some (r, b) → b.phase = .questionOpen →
    r = s.rounds ∧ ∃ o ∈ g.opened, o.round = r ∧ Shows b o
  tasks : ∀ i t, s.tasks.get i = some t → TaskOk db s g i t
  single : s.tasks.Exclusive Task.opens
  cleared : ∀ i t, s.tasks.get i = some t → t.opens = some () → s.answered = [] ∧ ¬ Running s
  /-- While attempts may be marked, the marks are the attempts of the last round. -/
  marked : Running s → ∀ u, u ∈ s.answered ↔ (s.rounds, u) ∈ g.allowed
  counted : ∀ p ∈ g.allowed, ∃ o ∈ g.opened, o.round = p.1 ∧ p.2 ∈ o.eligible
  nodup : g.allowed.Nodup
  refused : ∀ p ∈ g.refused, p ∈ g.allowed
  wins : ∀ w ∈ g.wins, Right db w.attempt ∧ w.shown = some w.attempt.questionId ∧
    ∃ o ∈ g.opened, o.round = w.round ∧ Entitled o w.attempt

theorem Held.mono {s s' : State} {g g' : Log} {i : Nat} {a : Attempt} (h : Held s g i a)
    (hrounds : s'.rounds = s.rounds) (hopened : ∀ o ∈ g.opened, o ∈ g'.opened) (hseen : g'.seen i = g.seen i) :
    Held s' g' i a := by
  obtain ⟨hs, o, ho, hr, hent⟩ := h
  unfold Held
  rw [hrounds, hseen]
  exact ⟨hs, o, hopened o ho, hr, hent⟩

theorem Due.mono {db : Db} {g g' : Log} {a : Attempt} {r : Nat} {b : BuzzerState} (h : Due db g a r b)
    (hopened : ∀ o ∈ g.opened, o ∈ g'.opened) : Due db g' a r b := by
  obtain ⟨hright, o, ho, hrest⟩ := h
  exact ⟨hright, o, hopened o ho, hrest⟩

/-- A task's facts survive what leaves the number of rounds and the round it saw. -/
theorem TaskOk.mono {db : Db} {s s' : State} {g g' : Log} {i : Nat} {t : Task} (h : TaskOk db s g i t)
    (hrounds : s'.rounds = s.rounds) (hopened : ∀ o ∈ g.opened, o ∈ g'.opened) (hseen : g'.seen i = g.seen i) :
    TaskOk db s' g' i t := by
  cases t with
  | answerMark a => exact Held.mono h hrounds hopened hseen
  | answerExpire a added =>
    cases added with
    | false => trivial
    | true => exact Held.mono h hrounds hopened hseen
  | answerQuestion a => exact Held.mono h hrounds hopened hseen
  | answerPersist a q => exact ⟨h.1, fun hc => (h.2 hc).mono hrounds hopened hseen⟩
  | answerRecheck a q => exact ⟨h.1, h.2.mono hrounds hopened hseen⟩
  | answerClear a q r b => exact Due.mono h hopened
  | answerWin a q r b => exact Due.mono h hopened
  | _ => trivial

/-- What a task that awaits no re-check relies on does not depend on the round. -/
theorem TaskOk.ahead {db : Db} {s s' : State} {g g' : Log} {i : Nat} {t : Task} (h : TaskOk db s g i t)
    (hnone : t.awaits = none) (hopened : ∀ o ∈ g.opened, o ∈ g'.opened) : TaskOk db s' g' i t := by
  cases t with
  | answerMark a => cases hnone
  | answerExpire a added =>
    cases added with
    | false => trivial
    | true => cases hnone
  | answerQuestion a => cases hnone
  | answerPersist a q =>
    refine ⟨h.1, fun hc => ?_⟩
    rw [Task.awaits, if_pos hc] at hnone
    cases hnone
  | answerRecheck a q => cases hnone
  | answerClear a q r b => exact Due.mono h hopened
  | answerWin a q r b => exact Due.mono h hopened
  | _ => trivial

theorem isOpen_iff {s : State} : isOpen s = true ↔ ∃ r b, s.buzzer = some (r, b) ∧ b.phase = .questionOpen := by
  unfold isOpen
  rw [Option.any_eq_true]
  constructor
  · rintro ⟨⟨r, b⟩, hb, hp⟩
    exact ⟨r, b, hb, by simpa using hp⟩
  · rintro ⟨r, b, hb, hp⟩
    exact ⟨(r, b), hb, by simpa using hp⟩

/-! ## Steps -/

/-- A step that leaves marks and rounds alone, and the question as it is or closed. Its task may go on to
its mark while a question is open. -/
theorem Fair.next {db : Db} {s s' : State} {g : Log} {i : Nat} {t : Option Task} {seen : Slots Nat} (h : Fair db s g)
    (htasks : s'.tasks = s.tasks.put i t) (hanswered : s'.answered = s.answered) (hrounds : s'.rounds = s.rounds)
    (hbuzzer : s'.buzzer = s.buzzer ∨ isOpen s' = false) (hseen : ∀ j, j ≠ i → seen j = g.seen j)
    (hok : ∀ u, t = some u → TaskOk db s { g with seen } i u ∧ u.opens = none ∧
      (u.marks = true → isOpen s = true)) : Fair db s' { g with seen } := by
  have hget : ∀ {j u}, s'.tasks.get j = some u → (j = i ∧ t = some u) ∨ (j ≠ i ∧ s.tasks.get j = some u) := by
    intro j u hj
    rw [htasks, Pool.get_put] at hj
    exact Slots.put_eq_some hj
  have hopen : isOpen s' = true → isOpen s = true := by
    intro ho
    rcases hbuzzer with heq | hclosed
    · unfold isOpen at ho ⊢
      rwa [heq] at ho
    · rw [hclosed] at ho
      cases ho
  have hrunning : Running s' → Running s := by
    rintro (ho | ⟨j, a, hj⟩)
    · exact .inl (hopen ho)
    · rcases hget hj with ⟨-, hnew⟩ | ⟨-, hold⟩
      · exact .inl ((hok _ hnew).2.2 rfl)
      · exact .inr ⟨j, a, hold⟩
  constructor
  · rw [hrounds]
    exact h.numbered
  · exact h.once
  · intro r b hb hp
    rw [hrounds]
    rcases hbuzzer with heq | hclosed
    · exact h.current r b (heq ▸ hb) hp
    · rw [isOpen_iff.2 ⟨r, b, hb, hp⟩] at hclosed
      cases hclosed
  · intro j u hj
    rcases hget hj with ⟨rfl, hnew⟩ | ⟨hji, hold⟩
    · exact (hok u hnew).1.mono hrounds (fun _ ho => ho) rfl
    · exact (h.tasks j u hold).mono hrounds (fun _ ho => ho) (hseen j hji)
  · rw [htasks]
    refine h.single.put i fun k hk => ?_
    obtain ⟨u, hu, hk⟩ := Option.bind_eq_some_iff.1 hk
    rw [(hok u hu).2.1] at hk
    cases hk
  · intro j u hj ho
    rcases hget hj with ⟨-, hnew⟩ | ⟨-, hold⟩
    · rw [(hok u hnew).2.1] at ho
      cases ho
    · obtain ⟨hempty, hnot⟩ := h.cleared j u hold ho
      exact ⟨hanswered.trans hempty, fun hr => hnot (hrunning hr)⟩
  · intro hr u
    rw [hanswered, hrounds]
    exact h.marked (hrunning hr) u
  · exact h.counted
  · exact h.nodup
  · exact h.refused
  · exact h.wins

/-- A task that ends, or goes on to neither a mark nor an opening. -/
theorem Fair.goes {db : Db} {s s' : State} {g : Log} {i : Nat} {t : Option Task} (h : Fair db s g)
    (htasks : s'.tasks = s.tasks.put i t) (hanswered : s'.answered = s.answered) (hrounds : s'.rounds = s.rounds)
    (hbuzzer : s'.buzzer = s.buzzer ∨ isOpen s' = false)
    (hok : ∀ u, t = some u → TaskOk db s g i u ∧ u.opens = none ∧ u.marks = false) : Fair db s' g := by
  refine h.next htasks hanswered hrounds hbuzzer (fun _ _ => rfl) fun u hu => ?_
  obtain ⟨htask, hopens, hmarks⟩ := hok u hu
  refine ⟨htask, hopens, fun hm => ?_⟩
  rw [hmarks] at hm
  cases hm

/-- More may be seen of the handlers without a step of the state. -/
theorem Fair.refuse {db : Db} {s : State} {g : Log} {p : Nat × UserId} (h : Fair db s g) (hp : p ∈ g.allowed) :
    Fair db s { g with refused := p :: g.refused } := by
  refine ⟨h.numbered, h.once, h.current, fun i t ht => ?_, h.single, h.cleared, h.marked, h.counted, h.nodup, ?_,
    h.wins⟩
  · exact (h.tasks i t ht).mono rfl (fun _ ho => ho) rfl
  · intro q hq
    rcases List.mem_cons.1 hq with rfl | hq
    · exact hp
    · exact h.refused q hq

theorem Fair.won {db : Db} {s : State} {g : Log} {w : Win} (h : Fair db s g)
    (hw : Right db w.attempt ∧ w.shown = some w.attempt.questionId ∧
      ∃ o ∈ g.opened, o.round = w.round ∧ Entitled o w.attempt) :
    Fair db s { g with wins := w :: g.wins } := by
  refine ⟨h.numbered, h.once, h.current, fun i t ht => ?_, h.single, h.cleared, h.marked, h.counted, h.nodup,
    h.refused, ?_⟩
  · exact (h.tasks i t ht).mono rfl (fun _ ho => ho) rfl
  · intro v hv
    rcases List.mem_cons.1 hv with rfl | hv
    · exact hw
    · exact h.wins v hv

theorem opensOn_some {r : Nat} {b : BuzzerState} {q : QuestionId} :
    opensOn (some (r, b)) q = true ↔ b.phase = .questionOpen ∧ b.question.map (·.questionId) = some q := by
  simp [opensOn]

/-- An answer is let into the round that is open. -/
theorem Fair.answerRead {db : Db} {now : Nat} {s : State} {g : Log} {i : Nat} (h : Fair db s g) (a : Attempt) :
    Fair db (resume db now s i (.answerRead a)) { g with seen := g.seen.put i (s.buzzer.map (·.1)) } := by
  have hseen : ∀ j, j ≠ i → g.seen.put i (s.buzzer.map (·.1)) j = g.seen j := fun j hj => Slots.put_of_ne _ _ hj
  have hend : Fair db (s.goto i none) { g with seen := g.seen.put i (s.buzzer.map (·.1)) } := by
    refine h.next rfl rfl rfl (.inl rfl) hseen ?_
    rintro u ⟨⟩
  cases hb : s.buzzer with
  | none =>
    rw [hb] at hend
    simpa only [resume, hb] using hend
  | some p =>
    obtain ⟨r, b⟩ := p
    rw [hb] at hend hseen
    simp only [resume, hb]
    split
    · next hq =>
      obtain ⟨hp, hqid⟩ := opensOn_some.1 hq.1
      obtain ⟨hr, o, ho, hor, hshows, helig⟩ := h.current r b hb hp
      refine h.next rfl rfl rfl (.inl rfl) hseen ?_
      rintro _ ⟨⟩
      refine ⟨⟨?_, o, ho, hor.trans hr, ?_, ?_⟩, rfl, fun _ => isOpen_iff.2 ⟨r, b, hb, hp⟩⟩
      · rw [← hr]
        exact Slots.put_self _ _ _
      · rw [hshows] at hqid
        exact Option.some.inj hqid
      · rw [← helig]
        exact hq.2
    · exact hend

/-- The first mark of a student counts; he is refused only after one. -/
theorem Fair.answerMark {db : Db} {now : Nat} {s : State} {g : Log} {i : Nat} {a : Attempt} (h : Fair db s g)
    (ht : s.tasks.get i = some (.answerMark a)) :
    Fair db (resume db now s i (.answerMark a)) (observe s i g (.answerMark a)) := by
  have hrunning : Running s := .inr ⟨i, a, ht⟩
  obtain ⟨hseen, o, ho, hor, hentitled⟩ : Held s g i a := h.tasks i _ ht
  have hmarked := h.marked hrunning a.client.user.sub
  simp only [resume, observe, hseen]
  by_cases hin : a.client.user.sub ∈ s.answered
  · rw [if_pos hin, if_pos hin]
    refine Fair.refuse ?_ (hmarked.1 hin)
    refine h.goes rfl rfl rfl (.inl rfl) ?_
    rintro _ ⟨⟩
    exact ⟨trivial, rfl, rfl⟩
  · rw [if_neg hin, if_neg hin]
    constructor
    · exact h.numbered
    · exact h.once
    · exact h.current
    · intro j u hj
      rcases Pool.get_put_cases hj with ⟨rfl, hnew⟩ | ⟨-, hold⟩
      · cases hnew
        exact ⟨hseen, o, ho, hor, hentitled⟩
      · exact (h.tasks j u hold).mono rfl (fun _ ho => ho) rfl
    · refine h.single.put i fun k hk => ?_
      cases hk
    · intro j u hj ho
      rcases Pool.get_put_cases hj with ⟨-, hnew⟩ | ⟨-, hold⟩
      · cases hnew
        cases ho
      · -- marks were cleared only when no answer had its mark ahead
        exact absurd hrunning (h.cleared j u hold ho).2
    · intro _ u
      show u ∈ s.answered ++ [a.client.user.sub] ↔ (s.rounds, u) ∈ (s.rounds, a.client.user.sub) :: g.allowed
      rw [List.mem_append, List.mem_singleton, List.mem_cons, h.marked hrunning u, Prod.mk.injEq]
      tauto
    · intro p hp
      rcases List.mem_cons.1 hp with rfl | hp
      · exact ⟨o, ho, hor, hentitled.2⟩
      · exact h.counted p hp
    · exact List.nodup_cons.2 ⟨fun hp => hin (hmarked.2 hp), h.nodup⟩
    · intro p hp
      exact List.mem_cons_of_mem _ (h.refused p hp)
    · exact h.wins

/-- The question a correct answer finds open is the one it answered. -/
theorem Fair.answerRecheck {db : Db} {now : Nat} {s : State} {g : Log} {i : Nat} {a : Attempt}
    {question : QuizQuestion} (h : Fair db s g) (ht : s.tasks.get i = some (.answerRecheck a question)) :
    Fair db (resume db now s i (.answerRecheck a question)) g := by
  have hend : Fair db (s.goto i none) g := by
    refine h.goes rfl rfl rfl (.inl rfl) ?_
    rintro u ⟨⟩
  obtain ⟨hright, -, o, ho, hor, hentitled⟩ : Right db a ∧ Held s g i a := h.tasks i _ ht
  cases hb : s.buzzer with
  | none => simpa only [resume, hb] using hend
  | some p =>
    obtain ⟨r, b⟩ := p
    simp only [resume, hb]
    split
    · next hp =>
      obtain ⟨hr, o', ho', hor', hshows⟩ := h.current r b hb hp
      -- both openings are of the last round, and a round has one
      obtain rfl : o = o' := List.inj_on_of_nodup_map h.once ho ho' (by rw [hor, hor', hr])
      refine h.goes rfl rfl rfl (.inl rfl) ?_
      rintro _ ⟨⟩
      exact ⟨⟨hright, o, ho, hor', hshows, hentitled⟩, rfl, rfl⟩
    · exact hend

/-- Marks are cleared between two rounds. -/
theorem Fair.startClear {db : Db} {now : Nat} {s : State} {g : Log} {i : Nat} {question : QuizQuestion}
    {eligible : List RoomUser} {openedAt : Nat} (h : Fair db s g)
    (ht : s.tasks.get i = some (.startClear question eligible openedAt))
    (hok : roundsApart s (.resume i now) = true) :
    Fair db (resume db now s i (.startClear question eligible openedAt)) g := by
  simp only [roundsApart, ht, Bool.and_eq_true, List.all_eq_true, Bool.not_eq_true'] at hok
  obtain ⟨⟨hclosed, hvacant⟩, hquiet⟩ := hok
  have hnot : ¬ Running (resume db now s i (.startClear question eligible openedAt)) := by
    rintro (ho | ⟨j, a, hj⟩)
    · have : isOpen s = true := ho
      rw [hclosed] at this
      cases this
    · simp only [resume, State.goto, Pool.get_put] at hj
      rcases Slots.put_eq_some hj with ⟨-, hnew⟩ | ⟨-, hold⟩
      · cases hnew
      · have := hquiet _ (Pool.mem_of_get hold)
        cases this
  constructor
  · exact h.numbered
  · exact h.once
  · exact h.current
  · intro j u hj
    rcases Pool.get_put_cases hj with ⟨-, hnew⟩ | ⟨-, hold⟩
    · cases hnew
      trivial
    · exact (h.tasks j u hold).mono rfl (fun _ ho => ho) rfl
  · exact h.single.put i fun _ _ => Pool.vacant_iff.1 hvacant
  · intro j u _ _
    exact ⟨rfl, hnot⟩
  · intro hr
    exact absurd hr hnot
  · exact h.counted
  · exact h.nodup
  · exact h.refused
  · exact h.wins

/-- A question opened finds no answer of an earlier round on its way to a re-check, and no mark. -/
theorem Fair.startOpen {db : Db} {now : Nat} {s : State} {g : Log} {i : Nat} {question : QuizQuestion}
    {eligible : List RoomUser} {openedAt : Nat} (h : Fair db s g)
    (ht : s.tasks.get i = some (.startOpen question eligible openedAt))
    (hok : roundsApart s (.resume i now) = true) :
    Fair db (resume db now s i (.startOpen question eligible openedAt))
      (observe s i g (.startOpen question eligible openedAt)) := by
  simp only [roundsApart, ht, List.all_eq_true] at hok
  obtain ⟨hempty, hnotRunning⟩ := h.cleared i _ ht rfl
  have hopened : ∀ o ∈ g.opened, o.round ≠ s.rounds + 1 := by
    intro o ho heq
    have := h.numbered o ho
    omega
  constructor
  · intro o ho
    rcases List.mem_cons.1 ho with rfl | ho
    · exact Nat.le_refl _
    · exact Nat.le_succ_of_le (h.numbered o ho)
  · show (((s.rounds + 1) :: g.opened.map (·.round))).Nodup
    refine List.nodup_cons.2 ⟨fun hmem => ?_, h.once⟩
    obtain ⟨o, ho, heq⟩ := List.mem_map.1 hmem
    exact hopened o ho heq
  · rintro r b ⟨⟩ -
    exact ⟨rfl, _, List.mem_cons_self, rfl, rfl, rfl⟩
  · intro j u hj
    rcases Pool.get_put_cases hj with ⟨-, hnew⟩ | ⟨-, hold⟩
    · cases hnew
      trivial
    · have hnone := Option.isNone_iff_eq_none.1 (hok _ (Pool.mem_of_get hold))
      exact (h.tasks j u hold).ahead hnone fun _ ho => List.mem_cons_of_mem _ ho
  · refine h.single.put i fun k hk => ?_
    cases hk
  · intro j u hj ho
    rcases Pool.get_put_cases hj with ⟨-, hnew⟩ | ⟨hji, hold⟩
    · cases hnew
      cases ho
    · exact absurd ho (h.single i _ () ht rfl j u hji hold)
  · intro _ u
    show u ∈ s.answered ↔ (s.rounds + 1, u) ∈ g.allowed
    rw [hempty]
    refine ⟨fun hu => (List.not_mem_nil hu).elim, fun hu => ?_⟩
    obtain ⟨o, ho, hor, -⟩ := h.counted _ hu
    exact absurd hor (hopened o ho)
  · intro p hp
    obtain ⟨o, ho, hrest⟩ := h.counted p hp
    exact ⟨o, List.mem_cons_of_mem _ ho, hrest⟩
  · exact h.nodup
  · exact h.refused
  · intro w hw
    obtain ⟨hc, hshown, o, ho, hrest⟩ := h.wins w hw
    exact ⟨hc, hshown, o, List.mem_cons_of_mem _ ho, hrest⟩

theorem Fair.resume {db : Db} {now : Nat} {s : State} {g : Log} {i : Nat} {t : Task} (h : Fair db s g)
    (ht : s.tasks.get i = some t) (hok : roundsApart s (.resume i now) = true) :
    Fair db (resume db now s i t) (observe s i g t) := by
  have hend : Fair db (s.goto i none) g := h.goes rfl rfl rfl (.inl rfl) (by rintro v ⟨⟩)
  have hgo : ∀ u, TaskOk db s g i u → u.opens = none → u.marks = false → Fair db (s.goto i (some u)) g := by
    intro u htask hopens hmarks
    refine h.goes rfl rfl rfl (.inl rfl) ?_
    rintro _ ⟨⟩
    exact ⟨htask, hopens, hmarks⟩
  have htask := h.tasks i t ht
  cases t with
  | startSession c q =>
    simp only [Buzzer.resume, observe]
    cases ownedSession c.user db.session with
    | none => exact hend
    | some session => exact hgo (.startRead session q) trivial rfl rfl
  | startRead session q =>
    have hon := hgo (.startPresence session q) trivial rfl rfl
    simp only [Buzzer.resume, observe]
    split
    · split
      · exact hend
      · exact hon
    · exact hon
  | startPresence session q =>
    simp only [Buzzer.resume, observe]
    split
    · exact hend
    · exact hgo _ trivial rfl rfl
  | startQuestion session q eligible =>
    simp only [Buzzer.resume, observe]
    split
    · split
      · exact hgo _ trivial rfl rfl
      · exact hend
    · exact hend
  | startClear question eligible openedAt => exact h.startClear ht hok
  | startOpen question eligible openedAt => exact h.startOpen ht hok
  | startTimer question => exact h.goes rfl rfl rfl (.inl rfl) (by rintro v ⟨⟩)
  | answerRead a => exact h.answerRead a
  | answerMark a => exact h.answerMark ht
  | answerExpire a added =>
    cases added with
    | false => exact hend
    | true => exact hgo (.answerQuestion a) htask rfl rfl
  | answerQuestion a =>
    simp only [Buzzer.resume, observe]
    cases hq : db.quizQuestion a.questionId with
    | none => exact hend
    | some question => exact hgo (.answerPersist a question) ⟨hq, fun _ => htask⟩ rfl rfl
  | answerPersist a question =>
    refine h.goes rfl rfl rfl (.inl rfl) ?_
    intro u hu
    obtain ⟨hc, hu⟩ := Option.ite_none_right_eq_some.1 hu
    cases hu
    exact ⟨⟨⟨question, htask.1, hc⟩, htask.2 hc⟩, rfl, rfl⟩
  | answerRecheck a question => exact h.answerRecheck ht
  | answerClear a question round latest =>
    refine h.goes rfl rfl rfl (.inl rfl) ?_
    rintro _ ⟨⟩
    exact ⟨htask, rfl, rfl⟩
  | answerWin a question round latest =>
    obtain ⟨hright, o, ho, hor, hshows, hentitled⟩ : Due db g a round latest := htask
    refine Fair.won (h.goes rfl rfl rfl (.inr rfl) ?_) ⟨hright, ?_, o, ho, hor, hentitled⟩
    · intro v hv
      obtain ⟨course, -, rfl⟩ := Option.map_eq_some_iff.1 hv
      exact ⟨trivial, rfl, rfl⟩
    · rw [hshows.1, hentitled.1]
  | answerAward a question round courseId => exact h.goes rfl rfl rfl (.inl rfl) (by rintro v ⟨⟩)
  | timeoutRead q =>
    simp only [Buzzer.resume, observe]
    split
    · split
      · exact hgo _ trivial rfl rfl
      · exact hend
    · exact hend
  | timeoutWrite round b => exact h.goes rfl rfl rfl (.inr rfl) (by rintro v ⟨⟩)

theorem watch_fair {db : Db} {x y : State × Log} {e : Event} (h : Fair db x.1 x.2)
    (hok : roundsApart x.1 e = true) (hstep : watch db x e = some y) : Fair db y.1 y.2 := by
  obtain ⟨s, g⟩ := x
  obtain ⟨s', hs, rfl⟩ := Option.map_eq_some_iff.1 hstep
  cases e with
  | buzzerStart i c q =>
    unfold step at hs
    simp only [Option.ite_none_right_eq_some, Option.some.injEq] at hs
    obtain ⟨-, rfl⟩ := hs
    split
    · refine h.goes rfl rfl rfl (.inl rfl) ?_
      rintro v ⟨⟩
      exact ⟨trivial, rfl, rfl⟩
    · exact h
  | quizAnswer i a =>
    unfold step at hs
    simp only [Option.ite_none_right_eq_some, Option.some.injEq] at hs
    obtain ⟨-, rfl⟩ := hs
    split
    · refine h.goes rfl rfl rfl (.inl rfl) ?_
      rintro v ⟨⟩
      exact ⟨trivial, rfl, rfl⟩
    · exact h
  | fire i t =>
    unfold step at hs
    simp only [Option.ite_none_right_eq_some, Option.map_eq_some_iff] at hs
    obtain ⟨-, p, -, rfl⟩ := hs
    refine h.goes rfl rfl rfl (.inl rfl) ?_
    rintro v ⟨⟩
    exact ⟨trivial, rfl, rfl⟩
  | resume i now =>
    obtain ⟨t, ht, rfl⟩ := Option.map_eq_some_iff.1 hs
    simp only [ht]
    exact h.resume ht hok
  | reject i =>
    obtain ⟨t, -, rfl⟩ := Option.map_eq_some_iff.1 hs
    exact h.goes rfl rfl rfl (.inl rfl) (by rintro v ⟨⟩)
  | presence users =>
    cases hs
    exact ⟨h.numbered, h.once, h.current, fun i t ht => (h.tasks i t ht).mono rfl (fun _ ho => ho) rfl, h.single,
      h.cleared, h.marked, h.counted, h.nodup, h.refused, h.wins⟩

theorem init_fair (db : Db) (users : List RoomUser) : Fair db (init users) Log.empty where
  numbered := nofun
  once := List.nodup_nil
  current := by rintro r b ⟨⟩
  tasks := by rintro i t ⟨⟩
  single := Pool.exclusive_empty
  cleared := by rintro i t ⟨⟩
  marked := by
    rintro (ho | ⟨i, a, hi⟩)
    · cases ho
    · cases hi
  counted := by rintro g ⟨⟩
  nodup := List.nodup_nil
  refused := by rintro g ⟨⟩
  wins := by rintro w ⟨⟩

/-! ## What is stored was seen -/

/-- The stored WINNER, the awards ahead and the rows paid are of wins in the log. -/
structure Logged (s : State) (g : Log) : Prop where
  winner : ∀ r b, s.buzzer = some (r, b) → b.phase = .winner → ∃ w ∈ g.wins, w.round = r ∧
    b.winner.map (·.userId) = some w.attempt.client.user.sub ∧ b.question.map (·.questionId) = w.shown
  due : ∀ i a q r c, s.tasks.get i = some (.answerAward a q r c) → ∃ w ∈ g.wins, w.round = r ∧ w.attempt = a
  paid : ∀ row ∈ s.pointsLedger, ∃ w ∈ g.wins, w.round = row.round ∧
    w.attempt.client.user.sub = row.studentId ∧ w.attempt.questionId = row.refId

/-- A step that writes no WINNER and pays nothing. -/
theorem Logged.next {s s' : State} {g g' : Log} {i : Nat} {t : Option Task} (h : Logged s g)
    (htasks : s'.tasks = s.tasks.put i t) (hledger : s'.pointsLedger = s.pointsLedger)
    (hbuzzer : s'.buzzer = s.buzzer ∨ ∀ r b, s'.buzzer = some (r, b) → b.phase ≠ .winner)
    (haward : ∀ u, t = some u → ∀ a q r c, u ≠ .answerAward a q r c) (hwins : g'.wins = g.wins) : Logged s' g' := by
  constructor
  · intro r b hb hp
    rw [hwins]
    rcases hbuzzer with heq | hnot
    · exact h.winner r b (heq ▸ hb) hp
    · exact absurd hp (hnot r b hb)
  · intro j a q r c hj
    rw [htasks, Pool.get_put] at hj
    rw [hwins]
    rcases Slots.put_eq_some hj with ⟨-, hnew⟩ | ⟨-, hold⟩
    · exact absurd rfl (haward _ hnew a q r c)
    · exact h.due j a q r c hold
  · rw [hledger, hwins]
    exact h.paid

theorem Logged.answerWin {db : Db} {now : Nat} {s : State} {g : Log} {i : Nat} {a : Attempt} {q : QuizQuestion}
    {r : Nat} {b : BuzzerState} (h : Logged s g) :
    Logged (resume db now s i (.answerWin a q r b)) (observe s i g (.answerWin a q r b)) := by
  constructor
  · rintro n c ⟨⟩ -
    exact ⟨_, List.mem_cons_self, rfl, rfl, rfl⟩
  · intro j a' q' r' c hj
    rcases Pool.get_put_cases hj with ⟨-, hnew⟩ | ⟨-, hold⟩
    · obtain ⟨course, -, heq⟩ := Option.map_eq_some_iff.1 hnew
      cases heq
      exact ⟨_, List.mem_cons_self, rfl, rfl⟩
    · obtain ⟨w, hw, hrest⟩ := h.due j a' q' r' c hold
      exact ⟨w, List.mem_cons_of_mem _ hw, hrest⟩
  · intro row hrow
    obtain ⟨w, hw, hrest⟩ := h.paid row hrow
    exact ⟨w, List.mem_cons_of_mem _ hw, hrest⟩

theorem Logged.answerAward {db : Db} {now : Nat} {s : State} {g : Log} {i : Nat} {a : Attempt} {q : QuizQuestion}
    {r : Nat} {c : CourseId} (h : Logged s g) (ht : s.tasks.get i = some (.answerAward a q r c)) :
    Logged (resume db now s i (.answerAward a q r c)) g := by
  constructor
  · exact h.winner
  · intro j a' q' r' c' hj
    rcases Pool.get_put_cases hj with ⟨-, hnew⟩ | ⟨-, hold⟩
    · cases hnew
    · exact h.due j a' q' r' c' hold
  · intro row hrow
    rcases List.mem_append.1 hrow with hrow | hrow
    · exact h.paid row hrow
    · obtain rfl := List.mem_singleton.1 hrow
      obtain ⟨w, hw, hr, ha⟩ := h.due i a q r c ht
      exact ⟨w, hw, hr, by rw [ha], by rw [ha]⟩

theorem wins_observe {s : State} {i : Nat} {g : Log} {t : Task} (h : t.writesWinner = false) :
    (observe s i g t).wins = g.wins := by
  cases t with
  | answerWin a q r b => cases h
  | answerMark a =>
    simp only [observe]
    split
    · split <;> rfl
    · rfl
  | _ => rfl

/-- What every other step leaves: the ledger, and the stored value or no winner in its place. -/
theorem resume_quiet (db : Db) (now : Nat) (s : State) (i : Nat) {t : Task} (hwin : t.writesWinner = false)
    (haward : ∀ a q r c, t ≠ .answerAward a q r c) :
    ∃ u, (resume db now s i t).tasks = s.tasks.put i u ∧ (resume db now s i t).pointsLedger = s.pointsLedger ∧
      ((resume db now s i t).buzzer = s.buzzer ∨
        ∀ r b, (resume db now s i t).buzzer = some (r, b) → b.phase ≠ .winner) ∧
      ∀ v, u = some v → ∀ a q r c, v ≠ .answerAward a q r c := by
  cases t with
  | answerWin a q r b => cases hwin
  | answerAward a q r c => exact absurd rfl (haward a q r c)
  | startOpen question eligible openedAt =>
    refine ⟨_, rfl, rfl, .inr ?_, ?_⟩
    · rintro r b ⟨⟩ ⟨⟩
    · rintro v ⟨⟩ a q r c ⟨⟩
  | timeoutWrite round b =>
    refine ⟨_, rfl, rfl, .inr ?_, ?_⟩
    · rintro r c ⟨⟩ ⟨⟩
    · rintro v ⟨⟩
  | startSession c q =>
    refine ⟨_, rfl, rfl, .inl rfl, ?_⟩
    cases ownedSession c.user db.session <;> rintro v ⟨⟩ a q r c ⟨⟩
  | answerExpire a added =>
    refine ⟨_, rfl, rfl, .inl rfl, ?_⟩
    cases added <;> rintro v ⟨⟩ a q r c ⟨⟩
  | answerQuestion a =>
    refine ⟨_, rfl, rfl, .inl rfl, ?_⟩
    cases db.quizQuestion a.questionId <;> rintro v ⟨⟩ a q r c ⟨⟩
  | answerPersist a question =>
    refine ⟨_, rfl, rfl, .inl rfl, ?_⟩
    cases isCorrect question a.answerIndex <;> rintro v ⟨⟩ a q r c ⟨⟩
  | _ =>
    simp only [resume]
    repeat (first | exact ⟨_, rfl, rfl, .inl rfl, by rintro v ⟨⟩ a q r c ⟨⟩⟩ | split)

theorem Logged.resume {db : Db} {now : Nat} {s : State} {g : Log} {i : Nat} {t : Task} (h : Logged s g)
    (ht : s.tasks.get i = some t) : Logged (resume db now s i t) (observe s i g t) := by
  cases hwin : t.writesWinner with
  | true =>
    cases t with
    | answerWin a q r b => exact h.answerWin
    | _ => cases hwin
  | false =>
    by_cases haward : ∃ a q r c, t = .answerAward a q r c
    · obtain ⟨a, q, r, c, rfl⟩ := haward
      exact h.answerAward ht
    · simp only [not_exists] at haward
      obtain ⟨u, htasks, hledger, hbuzzer, hu⟩ := resume_quiet db now s i hwin haward
      exact h.next htasks hledger hbuzzer hu (wins_observe hwin)

theorem watch_logged {db : Db} {x y : State × Log} {e : Event} (h : Logged x.1 x.2)
    (hstep : watch db x e = some y) : Logged y.1 y.2 := by
  obtain ⟨s, g⟩ := x
  obtain ⟨s', hs, rfl⟩ := Option.map_eq_some_iff.1 hstep
  cases e with
  | buzzerStart i c q =>
    unfold step at hs
    simp only [Option.ite_none_right_eq_some, Option.some.injEq] at hs
    obtain ⟨-, rfl⟩ := hs
    split
    · exact h.next rfl rfl (.inl rfl) (by rintro v ⟨⟩ a q r c ⟨⟩) rfl
    · exact h
  | quizAnswer i a =>
    unfold step at hs
    simp only [Option.ite_none_right_eq_some, Option.some.injEq] at hs
    obtain ⟨-, rfl⟩ := hs
    split
    · exact h.next rfl rfl (.inl rfl) (by rintro v ⟨⟩ a q r c ⟨⟩) rfl
    · exact h
  | fire i t =>
    unfold step at hs
    simp only [Option.ite_none_right_eq_some, Option.map_eq_some_iff] at hs
    obtain ⟨-, p, -, rfl⟩ := hs
    exact h.next rfl rfl (.inl rfl) (by rintro v ⟨⟩ a q r c ⟨⟩) rfl
  | resume i now =>
    obtain ⟨t, ht, rfl⟩ := Option.map_eq_some_iff.1 hs
    simp only [ht]
    exact h.resume ht
  | reject i =>
    obtain ⟨t, -, rfl⟩ := Option.map_eq_some_iff.1 hs
    exact h.next rfl rfl (.inl rfl) (by rintro v ⟨⟩) rfl
  | presence users =>
    cases hs
    exact ⟨h.winner, h.due, h.paid⟩

/-! ## Attempts belong to their round -/

structure RoundsFair (db : Db) (s : State) (g : Log) : Prop where
  /-- A round has one question. -/
  once : (g.opened.map (·.round)).Nodup
  /-- The stored WINNER and the rows paid are of wins seen. -/
  winner : ∀ r b, s.buzzer = some (r, b) → b.phase = .winner → ∃ w ∈ g.wins, w.round = r ∧
    b.winner.map (·.userId) = some w.attempt.client.user.sub ∧ b.question.map (·.questionId) = w.shown
  paid : ∀ row ∈ s.pointsLedger, ∃ w ∈ g.wins, w.round = row.round ∧
    w.attempt.client.user.sub = row.studentId ∧ w.attempt.questionId = row.refId
  /-- A win is a right answer to the question of its round, shown with it, by a student eligible in it. -/
  wins : ∀ w ∈ g.wins, Right db w.attempt ∧ w.shown = some w.attempt.questionId ∧
    ∃ o ∈ g.opened, o.round = w.round ∧ Entitled o w.attempt
  /-- Only who has attempted the round is refused, and no attempt counts twice. -/
  refused : ∀ p ∈ g.refused, p ∈ g.allowed
  allowed : g.allowed.Nodup
  eligible : ∀ p ∈ g.allowed, ∃ o ∈ g.opened, o.round = p.1 ∧ p.2 ∈ o.eligible

/-- In every run that keeps its rounds apart, attempts belong to their round. -/
theorem rounds_fair (db : Db) (users : List RoomUser) (es : List Event) (x : State × Log)
    (hok : Meets (watch db) (fun x e => roundsApart x.1 e = true) (init users, Log.empty) es)
    (h : run (watch db) (init users, Log.empty) es = some x) : RoundsFair db x.1 x.2 := by
  have hfair : Fair db x.1 x.2 := TransSys.run_inv (I := fun x => Fair db x.1 x.2)
    (fun _ _ _ hi hok h => watch_fair hi hok h) (init_fair db users) hok h
  have hlogged : Logged x.1 x.2 := by
    refine TransSys.run_keeps (I := fun x => Logged x.1 x.2) (fun _ _ _ hi h => watch_logged hi h) ?_ h
    exact ⟨by rintro r b ⟨⟩, by rintro i a q r c ⟨⟩, by rintro row ⟨⟩⟩
  exact ⟨hfair.once, hlogged.winner, hlogged.paid, hfair.wins, hfair.refused, hfair.nodup, hfair.counted⟩

/-! ## An answer that outlives its round -/

namespace Example

def second : QuizQuestion := { question with id := "q2", body := "3 + 3", options := ["5", "6"] }

def twoQuestions : Db :=
  { db with quizQuestion := fun q => if q = "q1" then some question else if q = "q2" then some second else none }

def opensAs (i : Nat) (questionId : QuestionId) : List Event :=
  .buzzerStart i teacher questionId :: List.replicate 7 (.resume i 0)

/-- Amina has won on `q1`; `q2` is opened and she answers again. -/
def twoRounds : List Event :=
  inTurn ++ opensAs 3 "q2" ++ (.quizAnswer 4 ⟨amina, "q2", 1⟩ :: List.replicate 9 (.resume 4 0))

/-- Amina's answer to `q1` waits for its re-check while `q1` times out and `q2` is opened. -/
def outlived : List Event :=
  opensAs 0 "q1" ++ answer 1 amina 5 ++ [.fire 2 0, .resume 2 0, .resume 2 0] ++ opensAs 3 "q2" ++
    List.replicate 4 (.resume 1 0)

end Example

open Example in
theorem twoRounds_fair :
    ((run (watch twoQuestions) (init users, Log.empty) twoRounds).map fun x =>
      (x.2.allowed, x.2.wins.map fun w => (w.round, w.shown))) =
        some ([(2, "a"), (1, "b"), (1, "a")], [(2, some "q2"), (1, some "q1")]) ∧
    ∀ x, run (watch twoQuestions) (init users, Log.empty) twoRounds = some x → RoundsFair twoQuestions x.1 x.2 :=
  ⟨by decide, fun x h => rounds_fair twoQuestions users twoRounds x (by decide) h⟩

open Example in
/-- The WINNER of `q2` is an answer to `q1`. -/
theorem outlived_wins :
    ¬ ∀ (db : Db) (users : List RoomUser) (es : List Event) (x : State × Log),
      run (watch db) (init users, Log.empty) es = some x → RoundsFair db x.1 x.2 := by
  intro h
  have hrun : ((run (watch twoQuestions) (init users, Log.empty) outlived).map fun x =>
      x.2.wins.map fun w => (w.attempt.questionId, w.shown)) = some [("q1", some "q2")] := by
    decide
  obtain ⟨x, hx, hwins⟩ := Option.map_eq_some_iff.1 hrun
  obtain ⟨w, hw, heq⟩ : ∃ w ∈ x.2.wins, (w.attempt.questionId, w.shown) = ("q1", some "q2") := by
    refine List.mem_map.1 ?_
    rw [hwins]
    exact List.mem_cons_self
  have hshown := ((h twoQuestions users outlived x hx).wins w hw).2.1
  rw [Prod.mk.injEq] at heq
  rw [heq.1, heq.2] at hshown
  exact absurd hshown (by decide)

end Livetich.Room.Buzzer
