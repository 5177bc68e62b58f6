/-
Calls that write as they go: what a call has written before it throws stays written.
-/
import Livetich.Lib.Checked

namespace Livetich.Lib

/-- From a state, the state the call leaves and what it returns or throws. -/
def Calls (σ ε α : Type) : Type := σ → σ × Except ε α

namespace Calls

variable {σ ε α β : Type}

instance : Monad (Calls σ ε) where
  pure a := fun s => (s, .ok a)
  bind x f := fun s => match x s with
    | (s', .ok a) => f a s'
    | (s', .error e) => (s', .error e)

/-- A computation on what is there, which may throw. -/
def reads (f : σ → Except ε α) : Calls σ ε α := fun s => (s, f s)

def check (p : Prop) [Decidable p] (e : ε) : Calls σ ε Unit := reads fun _ => ensure p e

def throws (e : ε) : Calls σ ε α := fun s => (s, .error e)

/-- What a part of a call returns or throws, for the call to look at. -/
def tries (x : Calls σ ε α) : Calls σ ε (Except ε α) := fun s => ((x s).1, .ok (x s).2)

/-- A write that goes through. -/
def writes (f : σ → σ) : Calls σ ε Unit := fun s => (f s, .ok ())

/-- A request to another system, which may fail and then throws. -/
def awaits (fails : Bool) (e : ε) : Calls σ ε Unit := check (fails = false) e

@[simp] theorem pure_run (a : α) (s : σ) : (pure a : Calls σ ε α) s = (s, .ok a) := rfl

/-- What follows a part of a call that returns. -/
theorem bind_of_ok {x : Calls σ ε α} {f : α → Calls σ ε β} {s s' : σ} {a : α} (h : x s = (s', .ok a)) :
    (x >>= f) s = f a s' := by
  show (match x s with | (s', .ok a) => f a s' | (s', .error e) => (s', .error e)) = f a s'
  rw [h]

theorem bind_of_error {x : Calls σ ε α} {f : α → Calls σ ε β} {s s' : σ} {e : ε} (h : x s = (s', .error e)) :
    (x >>= f) s = (s', .error e) := by
  show (match x s with | (s', .ok a) => f a s' | (s', .error e) => (s', .error e)) = (s', .error e)
  rw [h]

theorem reads_bind (f : σ → α) (g : α → Calls σ ε β) (s : σ) :
    (reads (fun s => .ok (f s)) >>= g) s = g (f s) s := rfl

theorem tries_bind (x : Calls σ ε α) (f : Except ε α → Calls σ ε β) (s : σ) :
    (tries x >>= f) s = f (x s).2 (x s).1 := rfl

/-- A call rejects in its first part or in what follows it. -/
theorem bind_error_iff {x : Calls σ ε α} {f : α → Calls σ ε β} {s t : σ} {e : ε} :
    (x >>= f) s = (t, .error e) ↔ x s = (t, .error e) ∨ ∃ s' a, x s = (s', .ok a) ∧ f a s' = (t, .error e) := by
  rcases hx : x s with ⟨s', r⟩
  cases r with
  | ok a =>
    rw [bind_of_ok hx]
    simp
  | error d =>
    rw [bind_of_error hx]
    simp

theorem bind_ok_iff {x : Calls σ ε α} {f : α → Calls σ ε β} {s t : σ} {b : β} :
    (x >>= f) s = (t, .ok b) ↔ ∃ s' a, x s = (s', .ok a) ∧ f a s' = (t, .ok b) := by
  rcases hx : x s with ⟨s', r⟩
  cases r with
  | ok a =>
    rw [bind_of_ok hx]
    simp
  | error d =>
    rw [bind_of_error hx]
    simp

theorem check_ok_iff {p : Prop} [Decidable p] {e : ε} {s t : σ} {u : Unit} :
    check p e s = (t, .ok u) ↔ p ∧ t = s := by
  unfold check reads
  rw [Prod.mk.injEq, ensure_ok_iff]
  exact ⟨fun h => ⟨h.2, h.1.symm⟩, fun h => ⟨h.2.symm, h.1⟩⟩

/-- A check that throws leaves what was written before. -/
theorem check_error_iff {p : Prop} [Decidable p] {e d : ε} {s t : σ} :
    check p e s = (t, .error d) ↔ ¬p ∧ t = s ∧ d = e := by
  unfold check reads ensure
  split
  · rename_i hp
    simp [hp]
  · rename_i hp
    simp [hp, eq_comm]

theorem awaits_ok {fails : Bool} (h : fails = false) (e : ε) (s : σ) : awaits fails e s = (s, .ok ()) :=
  check_ok_iff.2 ⟨h, rfl⟩

/-- A part of a call that writes nothing. -/
def Quiet (x : Calls σ ε α) : Prop := ∀ s, (x s).1 = s

theorem quiet_pure (a : α) : Quiet (pure a : Calls σ ε α) := fun _ => rfl

theorem quiet_reads (f : σ → Except ε α) : Quiet (reads f) := fun _ => rfl

theorem quiet_check (p : Prop) [Decidable p] (e : ε) : Quiet (check p e : Calls σ ε Unit) := quiet_reads _

theorem Quiet.bind {x : Calls σ ε α} {f : α → Calls σ ε β} (hx : Quiet x) (hf : ∀ a, Quiet (f a)) :
    Quiet (x >>= f) := by
  intro s
  have hs := hx s
  rcases h : x s with ⟨s', r⟩
  rw [h] at hs
  cases r with
  | ok a =>
    rw [bind_of_ok h, hf a s']
    exact hs
  | error e =>
    rw [bind_of_error h]
    exact hs

theorem Quiet.eq {x : Calls σ ε α} (hx : Quiet x) {s t : σ} {r : Except ε α} (h : x s = (t, r)) : t = s := by
  have hs := hx s
  rw [h] at hs
  exact hs

/-- From a state with `I`, a part of a call leaves one with `J`, returned or thrown, and what it returns has `Q`. -/
def Yields (I J : σ → Prop) (x : Calls σ ε α) (Q : α → Prop) : Prop :=
  ∀ s, I s → J (x s).1 ∧ ∀ a, (x s).2 = .ok a → Q a

section Yields

variable {I J K : σ → Prop} {Q : α → Prop} {R : β → Prop}

theorem Yields.pure {a : α} (h : Q a) : Yields I I (pure a : Calls σ ε α) Q := by
  intro s hs
  refine ⟨hs, fun b hb => ?_⟩
  cases hb
  exact h

theorem Yields.reads {f : σ → α} (h : ∀ s, I s → Q (f s)) :
    Yields I I (Calls.reads fun s => .ok (f s) : Calls σ ε α) Q := by
  intro s hs
  refine ⟨hs, fun a ha => ?_⟩
  cases ha
  exact h s hs

theorem Yields.awaits (fails : Bool) (e : ε) : Yields I I (Calls.awaits fails e) fun _ => True :=
  fun _ hs => ⟨hs, fun _ _ => trivial⟩

theorem Yields.writes {f : σ → σ} (h : ∀ s, I s → J (f s)) :
    Yields I J (Calls.writes f : Calls σ ε Unit) fun _ => True :=
  fun s hs => ⟨h s hs, fun _ _ => trivial⟩

/-- What the first part leaves is enough where it throws, and what follows goes on from it. -/
theorem Yields.bind' {x : Calls σ ε α} {f : α → Calls σ ε β} (hx : Yields I J x Q) (hJK : ∀ s, J s → K s)
    (hf : ∀ a, Q a → Yields J K (f a) R) : Yields I K (x >>= f) R := by
  intro s hs
  obtain ⟨hmid, hreturns⟩ := hx s hs
  rcases h : x s with ⟨s', r⟩
  rw [h] at hmid hreturns
  cases r with
  | ok a =>
    rw [bind_of_ok h]
    exact hf a (hreturns a rfl) s' hmid
  | error e =>
    rw [bind_of_error h]
    exact ⟨hJK s' hmid, fun b hb => by cases hb⟩

theorem Yields.bind {x : Calls σ ε α} {f : α → Calls σ ε β} (hx : Yields I I x Q)
    (hf : ∀ a, Q a → Yields I I (f a) R) : Yields I I (x >>= f) R :=
  hx.bind' (fun _ hs => hs) hf

theorem Yields.of_imp {x : Calls σ ε α} (hx : Yields I I x Q) (hJI : ∀ s, J s → I s) : Yields J I x Q :=
  fun s hs => hx s (hJI s hs)

end Yields

/-- From a state with `I`, a part of a call returns, and what it returns and leaves has `Q`. -/
def Ensures (I : σ → Prop) (x : Calls σ ε α) (Q : α → σ → Prop) : Prop := ∀ s, I s → ∃ t a, x s = (t, .ok a) ∧ Q a t

section Ensures

variable {I J : σ → Prop} {Q Q' : α → σ → Prop} {R : β → σ → Prop}

theorem Ensures.pure {a : α} (h : ∀ s, I s → Q a s) : Ensures I (pure a : Calls σ ε α) Q :=
  fun s hs => ⟨s, a, rfl, h s hs⟩

theorem Ensures.reads {f : σ → α} (h : ∀ s, I s → Q (f s) s) :
    Ensures I (Calls.reads fun s => .ok (f s) : Calls σ ε α) Q :=
  fun s hs => ⟨s, f s, rfl, h s hs⟩

theorem Ensures.writes {f : σ → σ} (h : ∀ s, I s → J (f s)) :
    Ensures I (Calls.writes f : Calls σ ε Unit) fun _ => J :=
  fun s hs => ⟨f s, (), rfl, h s hs⟩

theorem Ensures.awaits {fails : Bool} (h : fails = false) (e : ε) :
    Ensures I (Calls.awaits fails e) fun _ => I :=
  fun s hs => ⟨s, (), awaits_ok h e s, hs⟩

theorem Ensures.bind {x : Calls σ ε α} {f : α → Calls σ ε β} (hx : Ensures I x Q)
    (hf : ∀ a, Ensures (Q a) (f a) R) : Ensures I (x >>= f) R := by
  intro s hs
  obtain ⟨s', a, hrun, ha⟩ := hx s hs
  obtain ⟨t, b, hrest, hb⟩ := hf a s' ha
  exact ⟨t, b, (bind_of_ok hrun).trans hrest, hb⟩

theorem Ensures.of_imp {x : Calls σ ε α} (hx : Ensures I x Q) (hJI : ∀ s, J s → I s)
    (hQ : ∀ a s, Q a s → Q' a s) : Ensures J x Q' := by
  intro s hs
  obtain ⟨t, a, hrun, ha⟩ := hx s (hJI s hs)
  exact ⟨t, a, hrun, hQ a t ha⟩

theorem Ensures.yields {x : Calls σ ε α} (hx : Ensures I x fun _ => J) : Yields I J x fun _ => True := by
  intro s hs
  obtain ⟨t, a, hrun, ht⟩ := hx s hs
  rw [hrun]
  exact ⟨ht, fun _ _ => trivial⟩

end Ensures

theorem reads_ok_iff {f : σ → Except ε α} {s t : σ} {a : α} : reads f s = (t, .ok a) ↔ f s = .ok a ∧ t = s := by
  unfold reads
  rw [Prod.mk.injEq]
  exact ⟨fun h => ⟨h.2, h.1.symm⟩, fun h => ⟨h.2.symm, h.1⟩⟩

end Calls

end Livetich.Lib
