/-
Handlers that change a shared store and tell its readers. A handler is a program of calls to the store; what it tells
was read from the store, and is sent when the answer comes back, in the order of the reads. A handler is sound when
every change it makes, and every reader it lets in, is followed in the same handler by a telling of the topics
concerned.

Handlers run in any order and as many at a time as there are. When none of them is left, every reader was last told
what the store holds.
-/
import Livetich.Lib.TransSys

namespace Announce

open TransSys

variable {σ τ ι ν ε : Type*}

/-! ## Programs -/

inductive Prog (σ τ ι : Type*)
  | done
  /-- A call that changes the store. -/
  | call (f : σ → σ) (next : Prog σ τ ι)
  /-- A call that changes the store, after which a topic is sent to everyone. -/
  | set (f : σ → σ) (topic : τ) (next : Prog σ τ ι)
  /-- A call that reads the store. -/
  | ask (next : σ → Prog σ τ ι)
  /-- A topic is read, and sent to one reader or to all. -/
  | tell (topic : τ) (dest : Option ι) (next : Prog σ τ ι)

/-- Whatever it reads, the program tells the reader the topic. -/
def Prog.Tells (c : ι) (t : τ) : Prog σ τ ι → Prop
  | .done => False
  | .call _ next => next.Tells c t
  | .set _ topic next => topic = t ∨ next.Tells c t
  | .ask next => ∀ s, (next s).Tells c t
  | .tell topic dest next => (topic = t ∧ (dest = none ∨ dest = some c)) ∨ next.Tells c t

/-- A store with topics and readers, and the handlers of its events. -/
structure System (σ τ ι ν ε : Type*) where
  init : σ
  shown : σ → τ → ν
  reads : σ → ι → Bool
  handler : σ → ε → Prog σ τ ι

variable (sys : System σ τ ι ν ε)

/-- A change concerns a reader and a topic: the topic changes, or the reader comes in. -/
def System.Stirs (f : σ → σ) (c : ι) (t : τ) : Prop :=
  ∃ s, sys.shown (f s) t ≠ sys.shown s t ∨ (sys.reads s c = false ∧ sys.reads (f s) c = true)

/-- What a change concerns is told in the rest of the program. -/
def System.Sound : Prog σ τ ι → Prop
  | .done => True
  | .call f next => (∀ c t, sys.Stirs f c t → next.Tells c t) ∧ System.Sound next
  | .set f topic next => (∀ c t, sys.Stirs f c t → topic = t ∨ next.Tells c t) ∧ System.Sound next
  | .ask next => ∀ s, System.Sound (next s)
  | .tell _ _ next => System.Sound next

/-! ## Runs -/

/-- An answer on its way, what is sent when it comes, and the rest of the handler that waits for it. -/
structure Reply (σ τ ι ν : Type*) where
  topic : τ
  dest : Option ι
  value : ν
  rest : Prog σ τ ι

structure State (σ τ ι ν : Type*) where
  store : σ
  running : List (Prog σ τ ι)
  replies : List (Reply σ τ ι ν)
  /-- What each reader was last told of each topic. -/
  heard : ι → τ → Option ν

inductive Event (ε : Type*)
  | start (e : ε)
  /-- The next call of a running handler. -/
  | advance (i : Nat)
  /-- The oldest answer comes. -/
  | reply

def State.init : State σ τ ι ν := ⟨sys.init, [], [], fun _ _ => none⟩

def State.advance (s : State σ τ ι ν) (i : Nat) : Prog σ τ ι → State σ τ ι ν
  | .done => { s with running := s.running.eraseIdx i }
  | .call f next => { s with store := f s.store, running := s.running.set i next }
  | .set f topic next => { s with
      store := f s.store, running := s.running.eraseIdx i,
      replies := s.replies ++ [⟨topic, none, sys.shown (f s.store) topic, next⟩] }
  | .ask next => { s with running := s.running.set i (next s.store) }
  | .tell topic dest next => { s with
      running := s.running.eraseIdx i, replies := s.replies ++ [⟨topic, dest, sys.shown s.store topic, next⟩] }

variable [DecidableEq τ] [DecidableEq ι]

def Reply.reaches (r : Reply σ τ ι ν) (c : ι) (t : τ) : Bool := r.topic == t && r.dest.all (· == c)

/-- What is told reaches those who read at the moment. -/
def State.deliver (s : State σ τ ι ν) (r : Reply σ τ ι ν) : ι → τ → Option ν := fun c t =>
  if sys.reads s.store c && r.reaches c t then some r.value else s.heard c t

/-- The oldest answer comes, and the handler that waits for it goes on. -/
def State.answer (s : State σ τ ι ν) : Option (State σ τ ι ν) :=
  match s.replies with
  | [] => none
  | r :: replies => some { s with running := s.running ++ [r.rest], replies, heard := s.deliver sys r }

def step (s : State σ τ ι ν) : Event ε → Option (State σ τ ι ν)
  | .start e => some { s with running := s.running ++ [sys.handler s.store e] }
  | .advance i => s.running[i]?.map (s.advance sys i)
  | .reply => s.answer sys

/-- No handler is left. -/
def State.Quiet (s : State σ τ ι ν) : Prop := s.running = [] ∧ s.replies = []

/-! ## What is still to come -/

/-- What a reader will have been told once the answers on their way are in. -/
def State.outlook (s : State σ τ ι ν) (c : ι) (t : τ) : Option ν :=
  s.replies.foldl (fun told r => if r.reaches c t then some r.value else told) (s.heard c t)

/-- A handler is still going to tell the reader the topic. -/
def State.Owes (s : State σ τ ι ν) (c : ι) (t : τ) : Prop :=
  (∃ p ∈ s.running, p.Tells c t) ∨ ∃ r ∈ s.replies, r.rest.Tells c t

structure Inv (s : State σ τ ι ν) : Prop where
  running : ∀ p ∈ s.running, sys.Sound p
  replies : ∀ r ∈ s.replies, sys.Sound r.rest
  informed : ∀ c t, sys.reads s.store c = true → s.outlook c t = some (sys.shown s.store t) ∨ s.Owes c t

omit [DecidableEq τ] [DecidableEq ι] in
theorem mem_set_or {p q : Prog σ τ ι} {l : List (Prog σ τ ι)} {i : Nat} (hp : p ∈ l) :
    p ∈ l.set i q ∨ l[i]? = some p := by
  obtain ⟨j, hj⟩ := List.mem_iff_getElem?.1 hp
  by_cases hji : j = i
  · subst hji
    exact .inr hj
  · refine .inl (List.mem_iff_getElem?.2 ⟨j, ?_⟩)
    rw [List.getElem?_set_ne (Ne.symm hji)]
    exact hj

omit [DecidableEq τ] [DecidableEq ι] in
theorem mem_eraseIdx_or {p : Prog σ τ ι} {l : List (Prog σ τ ι)} {i : Nat} (hp : p ∈ l) :
    p ∈ l.eraseIdx i ∨ l[i]? = some p := by
  obtain ⟨j, hj⟩ := List.mem_iff_getElem?.1 hp
  by_cases hji : j = i
  · subst hji
    exact .inr hj
  · exact .inl (List.mem_eraseIdx_iff_getElem?.2 ⟨j, hji, hj⟩)

omit [DecidableEq τ] [DecidableEq ι] in
theorem mem_set_self {q p : Prog σ τ ι} {l : List (Prog σ τ ι)} {i : Nat} (h : l[i]? = some p) : q ∈ l.set i q := by
  have hi : i < l.length := (List.getElem?_eq_some_iff.1 h).1
  exact List.mem_iff_getElem?.2 ⟨i, by rw [List.getElem?_set_self hi]⟩

theorem reaches_iff {r : Reply σ τ ι ν} {c : ι} {t : τ} :
    r.reaches c t = true ↔ r.topic = t ∧ (r.dest = none ∨ r.dest = some c) := by
  unfold Reply.reaches
  cases r.dest with
  | none => simp
  | some d => simp

variable {sys} {s : State σ τ ι ν} {p q : Prog σ τ ι} {c : ι} {t : τ} {i : Nat}

omit [DecidableEq τ] [DecidableEq ι] in
/-- The handler goes on as another program, which tells what it was going to. -/
theorem State.Owes.set (h : s.Owes c t) (hp : s.running[i]? = some p) (hpq : p.Tells c t → q.Tells c t) (store : σ) :
    State.Owes { s with store, running := s.running.set i q } c t := by
  rcases h with ⟨p', hp', htells⟩ | hreplies
  · rcases mem_set_or (q := q) (i := i) hp' with hmem | heq
    · exact .inl ⟨p', hmem, htells⟩
    · rw [hp] at heq
      cases heq
      exact .inl ⟨q, mem_set_self hp, hpq htells⟩
  · exact .inr hreplies

omit [DecidableEq τ] [DecidableEq ι] in
/-- The handler waits for an answer. -/
theorem State.Owes.wait (h : s.Owes c t) (hp : s.running[i]? = some p) {r : Reply σ τ ι ν}
    (hpr : p.Tells c t → r.rest.Tells c t) (store : σ) :
    State.Owes { s with store, running := s.running.eraseIdx i, replies := s.replies ++ [r] } c t := by
  rcases h with ⟨p', hp', htells⟩ | ⟨r', hr', htells⟩
  · rcases mem_eraseIdx_or (i := i) hp' with hmem | heq
    · exact .inl ⟨p', hmem, htells⟩
    · rw [hp] at heq
      cases heq
      exact .inr ⟨r, by simp, hpr htells⟩
  · exact .inr ⟨r', by simp [hr'], htells⟩

theorem outlook_wait (s : State σ τ ι ν) (r : Reply σ τ ι ν) (store : σ) (running : List (Prog σ τ ι)) (c : ι) (t : τ) :
    State.outlook { s with store, running, replies := s.replies ++ [r] } c t =
      if r.reaches c t then some r.value else s.outlook c t := by
  unfold State.outlook
  rw [List.foldl_append]
  rfl

/-! ## Each call keeps the readers informed -/

/-- What a reader was told, or is going to be, stays so over a change that does not concern it. -/
theorem Inv.informed_call (h : Inv sys s) {f : σ → σ} (hc : sys.reads (f s.store) c = true)
    (hnot : ¬ sys.Stirs f c t) : s.outlook c t = some (sys.shown (f s.store) t) ∨ s.Owes c t := by
  have hread : sys.reads s.store c = true := by
    by_contra hno
    exact hnot ⟨s.store, .inr ⟨by simpa using hno, hc⟩⟩
  have hsame : sys.shown (f s.store) t = sys.shown s.store t := by
    by_contra hne
    exact hnot ⟨s.store, .inl hne⟩
  rw [hsame]
  exact h.informed c t hread

theorem Inv.call (h : Inv sys s) {f : σ → σ} {next : Prog σ τ ι} (hp : s.running[i]? = some (.call f next)) :
    Inv sys (s.advance sys i (.call f next)) := by
  obtain ⟨htells, hnext⟩ : _ ∧ sys.Sound next := h.running _ (List.mem_of_getElem? hp)
  refine ⟨fun q hq => ?_, h.replies, fun c t hc => ?_⟩
  · rcases List.mem_or_eq_of_mem_set hq with hq | rfl
    · exact h.running q hq
    · exact hnext
  · by_cases hstirs : sys.Stirs f c t
    -- a sound handler that stirs the topic has yet to tell it
    · exact .inr (.inl ⟨next, mem_set_self hp, htells c t hstirs⟩)
    · refine (h.informed_call hc hstirs).imp id fun howes => ?_
      exact howes.set (q := next) hp (fun htells => htells) (f s.store)

theorem Inv.set (h : Inv sys s) {f : σ → σ} {topic : τ} {next : Prog σ τ ι}
    (hp : s.running[i]? = some (.set f topic next)) : Inv sys (s.advance sys i (.set f topic next)) := by
  obtain ⟨htells, hnext⟩ : _ ∧ sys.Sound next := h.running _ (List.mem_of_getElem? hp)
  refine ⟨fun q hq => h.running q (List.mem_of_mem_eraseIdx hq), fun r hr => ?_, fun c t hc => ?_⟩
  · rcases List.mem_append.1 hr with hr | hr
    · exact h.replies r hr
    · rw [List.mem_singleton.1 hr]
      exact hnext
  · rw [show (s.advance sys i (.set f topic next)).outlook c t = _ from outlook_wait s _ (f s.store) _ c t]
    by_cases htopic : topic = t
    · subst htopic
      rw [if_pos (reaches_iff.2 ⟨rfl, .inl rfl⟩)]
      exact .inl rfl
    -- of any other topic the handler tells after this answer, or nothing changed
    · rw [if_neg fun hr => htopic (reaches_iff.1 hr).1]
      by_cases hstirs : sys.Stirs f c t
      · exact .inr (.inr ⟨_, List.mem_append_right _ List.mem_cons_self, (htells c t hstirs).resolve_left htopic⟩)
      · refine (h.informed_call hc hstirs).imp id fun howes => ?_
        apply howes.wait hp
        exact fun htells => htells.resolve_left htopic

theorem Inv.ask (h : Inv sys s) {next : σ → Prog σ τ ι} (hp : s.running[i]? = some (.ask next)) :
    Inv sys (s.advance sys i (.ask next)) := by
  have hnext : ∀ x, sys.Sound (next x) := h.running _ (List.mem_of_getElem? hp)
  refine ⟨fun q hq => ?_, h.replies, fun c t hc => ?_⟩
  · rcases List.mem_or_eq_of_mem_set hq with hq | rfl
    · exact h.running q hq
    · exact hnext s.store
  · refine (h.informed c t hc).imp id fun howes => ?_
    exact howes.set hp (fun htells => htells s.store) s.store

theorem Inv.tell (h : Inv sys s) {topic : τ} {dest : Option ι} {next : Prog σ τ ι}
    (hp : s.running[i]? = some (.tell topic dest next)) : Inv sys (s.advance sys i (.tell topic dest next)) := by
  have hsound : sys.Sound (.tell topic dest next) := h.running _ (List.mem_of_getElem? hp)
  have hnext : sys.Sound next := hsound
  refine ⟨fun q hq => h.running q (List.mem_of_mem_eraseIdx hq), fun r hr => ?_, fun c t hc => ?_⟩
  · rcases List.mem_append.1 hr with hr | hr
    · exact h.replies r hr
    · rw [List.mem_singleton.1 hr]
      exact hnext
  · rw [show (s.advance sys i (.tell topic dest next)).outlook c t = _ from outlook_wait s _ s.store _ c t]
    split
    · rename_i hreach
      have htopic : topic = t := (reaches_iff.1 hreach).1
      subst htopic
      exact .inl rfl
    · rename_i hreach
      refine (h.informed c t hc).imp id fun howes => ?_
      apply howes.wait hp
      exact fun htells => htells.resolve_left fun hr => hreach (reaches_iff.2 hr)

theorem Inv.done (h : Inv sys s) (hp : s.running[i]? = some .done) : Inv sys (s.advance sys i .done) := by
  refine ⟨fun q hq => h.running q (List.mem_of_mem_eraseIdx hq), h.replies, fun c t hc => ?_⟩
  refine (h.informed c t hc).imp id fun howes => ?_
  rcases howes with ⟨p', hp', htells⟩ | hreplies
  · rcases mem_eraseIdx_or (i := i) hp' with hmem | heq
    · exact .inl ⟨p', hmem, htells⟩
    · rw [hp] at heq
      cases heq
      exact htells.elim
  · exact .inr hreplies

theorem Inv.advance (h : Inv sys s) (hp : s.running[i]? = some p) : Inv sys (s.advance sys i p) := by
  cases p with
  | done => exact h.done hp
  | call f next => exact h.call hp
  | set f topic next => exact h.set hp
  | ask next => exact h.ask hp
  | tell topic dest next => exact h.tell hp

theorem Inv.reply (h : Inv sys s) {r : Reply σ τ ι ν} {replies : List (Reply σ τ ι ν)} (hr : s.replies = r :: replies) :
    Inv sys { s with running := s.running ++ [r.rest], replies, heard := s.deliver sys r } := by
  have hmem : r ∈ s.replies := by simp [hr]
  refine ⟨fun q hq => ?_, fun r' hr' => h.replies r' (by simp [hr, hr']), fun c t hc => ?_⟩
  · rcases List.mem_append.1 hq with hq | hq
    · exact h.running q hq
    · rw [List.mem_singleton.1 hq]
      exact h.replies r hmem
  · refine (h.informed c t hc).imp (fun hout => ?_) fun howes => ?_
    · -- for one who reads, the answer counts now as it was going to
      rw [← hout]
      show replies.foldl _ (s.deliver sys r c t) = s.replies.foldl _ (s.heard c t)
      rw [hr, List.foldl_cons]
      have hnow : sys.reads s.store c = true := hc
      simp [State.deliver, hnow]
    · rcases howes with ⟨p', hp', htells⟩ | ⟨r', hr', htells⟩
      · exact .inl ⟨p', by simp [hp'], htells⟩
      · rw [hr] at hr'
        rcases List.mem_cons.1 hr' with rfl | hr'
        · exact .inl ⟨r'.rest, by simp, htells⟩
        · exact .inr ⟨r', hr', htells⟩

theorem Inv.start (h : Inv sys s) {e : ε} (hsound : sys.Sound (sys.handler s.store e)) :
    Inv sys { s with running := s.running ++ [sys.handler s.store e] } := by
  refine ⟨fun q hq => ?_, h.replies, fun c t hc => (h.informed c t hc).imp id fun howes => ?_⟩
  · rcases List.mem_append.1 hq with hq | hq
    · exact h.running q hq
    · rw [List.mem_singleton.1 hq]
      exact hsound
  · exact howes.imp (fun ⟨p', hp', htells⟩ => ⟨p', List.mem_append_left _ hp', htells⟩) id

theorem Inv.step (hsound : ∀ x e, sys.Sound (sys.handler x e)) {e : Event ε} {s' : State σ τ ι ν} (h : Inv sys s)
    (hs : step sys s e = some s') : Inv sys s' := by
  cases e with
  | start e =>
    cases hs
    exact h.start (hsound _ e)
  | advance i =>
    obtain ⟨p, hp, rfl⟩ := Option.map_eq_some_iff.1 hs
    exact h.advance hp
  | reply =>
    have hanswer : s.answer sys = some s' := hs
    unfold State.answer at hanswer
    split at hanswer
    · cases hanswer
    · rename_i r replies hr
      cases hanswer
      exact h.reply hr

theorem Inv.init (hout : ∀ c, sys.reads sys.init c = false) : Inv sys (State.init sys) := by
  refine ⟨fun p hp => ?_, fun r hr => ?_, fun c t hc => ?_⟩
  · cases hp
  · cases hr
  · rw [show (State.init sys).store = sys.init from rfl, hout c] at hc
    cases hc

/-- Sound handlers, run in any order: when none is left, every reader was last told what the store holds. -/
theorem heard_of_quiet (hsound : ∀ x e, sys.Sound (sys.handler x e)) (hout : ∀ c, sys.reads sys.init c = false)
    {es : List (Event ε)} (h : run (step sys) (State.init sys) es = some s) (hquiet : s.Quiet)
    (hc : sys.reads s.store c = true) (t : τ) : s.heard c t = some (sys.shown s.store t) := by
  have hinv : Inv sys s := run_keeps (fun _ _ _ hi hs => hi.step hsound hs) (Inv.init hout) h
  have hinformed := hinv.informed c t hc
  unfold State.outlook State.Owes at hinformed
  rw [hquiet.1, hquiet.2] at hinformed
  rcases hinformed with hheard | ⟨p, hp, -⟩ | ⟨r, hr, -⟩
  · exact hheard
  · cases hp
  · cases hr

end Announce
