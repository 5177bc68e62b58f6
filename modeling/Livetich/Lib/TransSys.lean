/-
Executable transition systems: a partial step function `step : σ → ε → Option σ` run over a list
of events, runs whose every step meets a condition on the state before it, and the invariant rule
for such runs. `Pool` is the usual state of concurrent tasks: which task numbers are in use, and
what each of these tasks still has to do; `Slots` is a pool read as a partial map.
-/
import Mathlib.Data.List.Nodup
import Mathlib.Logic.Function.Basic
import Mathlib.Tactic.Common

namespace TransSys

variable {σ ε : Type*}

/-! ## Runs -/

/-- Take the events of a list in order; `none` when some event is not enabled. -/
def run (step : σ → ε → Option σ) : σ → List ε → Option σ
  | s, [] => some s
  | s, e :: es => (step s e).bind fun s' => run step s' es

/-- Every step a run takes meets `ok` in the state before it. -/
def Meets (step : σ → ε → Option σ) (ok : σ → ε → Prop) : σ → List ε → Prop
  | _, [] => True
  | s, e :: es => ok s e ∧ ∀ s' ∈ step s e, Meets step ok s' es

instance (step : σ → ε → Option σ) (ok : σ → ε → Prop) [∀ s e, Decidable (ok s e)] :
    ∀ s es, Decidable (Meets step ok s es)
  | _, [] => inferInstanceAs (Decidable True)
  | s, e :: es =>
    have : ∀ s', Decidable (Meets step ok s' es) := fun s' => instDecidableMeets step ok s' es
    inferInstanceAs (Decidable (_ ∧ ∀ s' ∈ step s e, Meets step ok s' es))

@[simp] theorem run_nil (step : σ → ε → Option σ) (s : σ) : run step s [] = some s := rfl

theorem run_cons {step : σ → ε → Option σ} {s t : σ} {e : ε} {es : List ε} :
    run step s (e :: es) = some t ↔ ∃ s', step s e = some s' ∧ run step s' es = some t := by
  rw [run, Option.bind_eq_some_iff]

theorem run_append (step : σ → ε → Option σ) : ∀ (es₁ es₂ : List ε) (s : σ),
    run step s (es₁ ++ es₂) = (run step s es₁).bind fun t => run step t es₂
  | [], _, _ => rfl
  | e :: es₁, es₂, s => by
    show ((step s e).bind fun s' => run step s' (es₁ ++ es₂)) = ((step s e).bind fun s' => run step s' es₁).bind _
    rw [Option.bind_assoc]
    exact congrArg (step s e).bind (funext fun s' => run_append step es₁ es₂ s')

/-- The invariant rule: what holds at the start and is kept by every step that meets `ok` holds
at the end of every run whose steps all meet `ok`. -/
theorem run_inv {step : σ → ε → Option σ} {ok : σ → ε → Prop} {I : σ → Prop}
    (hI : ∀ s e s', I s → ok s e → step s e = some s' → I s') :
    ∀ {es : List ε} {s t : σ}, I s → Meets step ok s es → run step s es = some t → I t
  | [], _, _, hs, _, h => by rw [run_nil, Option.some.injEq] at h; exact h ▸ hs
  | e :: es, s, t, hs, hok, h => by
    obtain ⟨s', he, h⟩ := run_cons.1 h
    exact run_inv hI (hI s e s' hs hok.1 he) (hok.2 s' he) h

/-- What every step keeps, every run keeps. -/
theorem run_keeps {step : σ → ε → Option σ} {I : σ → Prop} (hI : ∀ s e s', I s → step s e = some s' → I s') :
    ∀ {es : List ε} {s t : σ}, I s → run step s es = some t → I t
  | [], _, _, hs, h => by rw [run_nil, Option.some.injEq] at h; exact h ▸ hs
  | e :: _, s, _, hs, h => by
    obtain ⟨s', he, h⟩ := run_cons.1 h
    exact run_keeps hI (hI s e s' hs he) h

/-- What every step that meets `ok` does between two states, a run of such steps does. -/
theorem run_between {step : σ → ε → Option σ} {ok : σ → ε → Prop} {I : σ → Prop} {R : σ → σ → Prop}
    (hrefl : ∀ s, R s s) (htrans : ∀ s t u, R s t → R t u → R s u)
    (hstep : ∀ s e s', I s → ok s e → step s e = some s' → I s' ∧ R s s') :
    ∀ {es : List ε} {s t : σ}, I s → Meets step ok s es → run step s es = some t → I t ∧ R s t
  | [], s, _, hs, _, h => by rw [run_nil, Option.some.injEq] at h; exact h ▸ ⟨hs, hrefl s⟩
  | e :: es, s, t, hs, hok, h => by
    obtain ⟨s', he, h⟩ := run_cons.1 h
    obtain ⟨hs', hfirst⟩ := hstep s e s' hs hok.1 he
    obtain ⟨ht, hrest⟩ := run_between hrefl htrans hstep hs' (hok.2 s' he) h
    exact ⟨ht, htrans s s' t hfirst hrest⟩

theorem meets_append {step : σ → ε → Option σ} {ok : σ → ε → Prop} : ∀ {es₁ es₂ : List ε} {s t : σ},
    Meets step ok s (es₁ ++ es₂) → run step s es₁ = some t → Meets step ok s es₁ ∧ Meets step ok t es₂
  | [], _, _, _, hok, h => by rw [run_nil, Option.some.injEq] at h; exact ⟨trivial, h ▸ hok⟩
  | e :: es₁, es₂, s, t, hok, h => by
    obtain ⟨s', he, h⟩ := run_cons.1 h
    obtain ⟨-, hok₂⟩ := meets_append (hok.2 s' he) h
    refine ⟨⟨hok.1, fun s'' he' => ?_⟩, hok₂⟩
    have heq : s'' = s' := Option.some.inj (Eq.trans (Eq.symm he') he)
    rw [heq]
    exact (meets_append (hok.2 s' he) h).1

/-- A condition that each step taken by a run meets. -/
theorem Meets.of_steps {step : σ → ε → Option σ} {ok : σ → ε → Prop} : ∀ {es : List ε} {s t : σ},
    run step s es = some t →
    (∀ es₁ e es₂ s₁ s₂, es = es₁ ++ e :: es₂ → run step s es₁ = some s₁ → step s₁ e = some s₂ → ok s₁ e) →
    Meets step ok s es
  | [], _, _, _, _ => trivial
  | e :: es, s, t, h, hok => by
    obtain ⟨s', he, h⟩ := run_cons.1 h
    refine ⟨hok [] e es s s' rfl rfl he, fun s'' he' => ?_⟩
    have heq : s'' = s' := Option.some.inj (Eq.trans (Eq.symm he') he)
    subst heq
    refine Meets.of_steps h fun es₁ d es₂ s₁ s₂ hes hrun hd => ?_
    exact hok (e :: es₁) d es₂ s₁ s₂ (by rw [hes, List.cons_append]) (run_cons.2 ⟨s'', he, hrun⟩) hd

/-- The exact condition of a run: where steps that meet `ok` keep an invariant that has `P`, and every other step breaks
`P`, all steps of a run meet `ok` just when `P` holds in every state the run reaches. -/
theorem meets_iff_of_keeps {step : σ → ε → Option σ} {ok : σ → ε → Prop} {I P : σ → Prop}
    (hI : ∀ s e s', I s → ok s e → step s e = some s' → I s') (hIP : ∀ s, I s → P s)
    (hP : ∀ s e s', I s → step s e = some s' → P s' → ok s e) :
    ∀ {es : List ε} {s t : σ}, I s → run step s es = some t →
    (Meets step ok s es ↔ ∀ es₁ es₂ u, es = es₁ ++ es₂ → run step s es₁ = some u → P u)
  | [], s, _, hs, _ => by
    refine ⟨fun _ es₁ es₂ u hes hrun => ?_, fun _ => trivial⟩
    obtain ⟨rfl, rfl⟩ := List.append_eq_nil_iff.1 hes.symm
    cases hrun
    exact hIP s hs
  | e :: es, s, t, hs, h => by
    obtain ⟨s', he, h⟩ := run_cons.1 h
    constructor
    · rintro hok es₁ es₂ u hes hrun
      rw [hes] at hok
      exact hIP u (run_inv hI hs (meets_append hok hrun).1 hrun)
    · intro hall
      have hfirst : ok s e := hP s e s' hs he (hall [e] es s' rfl (run_cons.2 ⟨s', he, rfl⟩))
      have hs' : I s' := hI s e s' hs hfirst he
      refine ⟨hfirst, fun s'' he' => ?_⟩
      have heq : s'' = s' := Option.some.inj (Eq.trans (Eq.symm he') he)
      subst heq
      refine (meets_iff_of_keeps hI hIP hP hs' h).2 fun es₁ es₂ u hes hrun => ?_
      exact hall (e :: es₁) es₂ u (by rw [hes, List.cons_append]) (run_cons.2 ⟨s'', he, hrun⟩)

/-- The exact condition of a run, where all steps keep the invariant. -/
theorem meets_iff {step : σ → ε → Option σ} {ok : σ → ε → Prop} {I P : σ → Prop}
    (hI : ∀ s e s', I s → step s e = some s' → I s')
    (hP : ∀ s e s', I s → P s → step s e = some s' → (P s' ↔ ok s e)) {es : List ε} {s t : σ} (hs : I s) (hsP : P s)
    (h : run step s es = some t) :
    Meets step ok s es ↔ ∀ es₁ es₂ u, es = es₁ ++ es₂ → run step s es₁ = some u → P u :=
  meets_iff_of_keeps (I := fun u => I u ∧ P u)
    (fun u e u' hu hue hstep => ⟨hI u e u' hu.1 hstep, (hP u e u' hu.1 hu.2 hstep).2 hue⟩) (fun _ hu => hu.2)
    (fun u e u' hu hstep => (hP u e u' hu.1 hu.2 hstep).1) ⟨hs, hsP⟩ h

/-- What holds of every event goes into the condition. -/
theorem Meets.and_forall {step : σ → ε → Option σ} {ok : σ → ε → Prop} {q : ε → Prop} : ∀ {es : List ε} {s : σ},
    Meets step ok s es → (∀ e ∈ es, q e) → Meets step (fun s e => q e ∧ ok s e) s es
  | [], _, _, _ => trivial
  | e :: _, _, h, hq => ⟨⟨hq e List.mem_cons_self, h.1⟩, fun s' hs =>
      Meets.and_forall (h.2 s' hs) fun e' he => hq e' (List.mem_cons_of_mem _ he)⟩

/-- What is observed of a run cut in two. -/
theorem observed {α : Type*} {step : σ → ε → Option σ} {s : σ} {es₁ es₂ : List ε} {f : σ → σ → α} {x : α}
    (h : ((run step s es₁).bind fun s₁ => (run step s₁ es₂).map (f s₁)) = some x) :
    ∃ s₁ s₂, run step s es₁ = some s₁ ∧ run step s₁ es₂ = some s₂ ∧ f s₁ s₂ = x := by
  obtain ⟨s₁, h₁, h⟩ := Option.bind_eq_some_iff.1 h
  obtain ⟨s₂, h₂, hx⟩ := Option.map_eq_some_iff.1 h
  exact ⟨s₁, s₂, h₁, h₂, hx⟩

/-! ## Slots -/

/-- What each task number holds; `none` for a number not in use. -/
abbrev Slots (τ : Type*) := Nat → Option τ

namespace Slots

variable {τ : Type*}

def put (p : Slots τ) (i : Nat) (t : Option τ) : Slots τ := Function.update p i t

@[simp] theorem put_self (p : Slots τ) (i : Nat) (t : Option τ) : p.put i t i = t := by
  simp [put]

theorem put_of_ne (p : Slots τ) {i j : Nat} (t : Option τ) (h : j ≠ i) : p.put i t j = p j := by
  simp [put, h]

/-- What a slot holds after `put`: the task put there, or what another slot held before. -/
theorem put_eq_some {p : Slots τ} {i j : Nat} {t : Option τ} {u : τ} (h : p.put i t j = some u) :
    (j = i ∧ t = some u) ∨ (j ≠ i ∧ p j = some u) := by
  by_cases hj : j = i
  · subst hj; rw [put_self] at h; exact .inl ⟨rfl, h⟩
  · rw [put_of_ne p t hj] at h; exact .inr ⟨hj, h⟩

theorem put_of_eq {p : Slots τ} {i : Nat} {t : Option τ} (h : p i = t) : p.put i t = p := by
  unfold put; rw [← h]; exact Function.update_eq_self i p

/-- A slot in use is put to another use. -/
theorem isSome_put {p : Slots τ} {i : Nat} {u : τ} (t : τ) (h : p i = some u) (j : Nat) :
    (p.put i (some t) j).isSome = (p j).isSome := by
  by_cases hj : j = i
  · subst hj
    rw [put_self, h]
    rfl
  · rw [put_of_ne p _ hj]

/-- The number of a slot, as long as it is in use. -/
theorem name_congr {p q : Slots τ} (h : ∀ i, (q i).isSome = (p i).isSome) (name : Option Nat) :
    (name.bind fun i => (q i).map (i, ·)).map (·.1) = (name.bind fun i => (p i).map (i, ·)).map (·.1) := by
  cases name with
  | none => rfl
  | some i =>
    have hi := h i
    rw [Option.bind_some, Option.bind_some]
    cases hp : p i with
    | none =>
      rw [hp, Option.isSome_none, Option.isSome_eq_false_iff, Option.isNone_iff_eq_none] at hi
      rw [hi]
    | some t =>
      rw [hp] at hi
      obtain ⟨u, hu⟩ := Option.isSome_iff_exists.1 hi
      rw [hu]
      rfl

/-- Reading each slot through `f` commutes with `put`. -/
theorem bind_put {υ : Type*} (f : τ → Option υ) (p : Slots τ) (i : Nat) (t : Option τ) :
    (fun j => (p.put i t j).bind f) = Slots.put (fun j => (p j).bind f) i (t.bind f) := by
  funext j
  by_cases hj : j = i
  · subst hj; rw [put_self, put_self]
  · rw [put_of_ne _ _ hj, put_of_ne _ _ hj]

theorem map_put {υ : Type*} (f : τ → υ) (p : Slots τ) (i : Nat) (t : Option τ) :
    (fun j => (p.put i t j).map f) = Slots.put (fun j => (p j).map f) i (t.map f) := by
  funext j
  by_cases hj : j = i
  · subst hj; rw [put_self, put_self]
  · rw [put_of_ne _ _ hj, put_of_ne _ _ hj]

end Slots

/-! ## Pools -/

/-- The tasks in flight, by number. -/
structure Pool (τ : Type*) where
  entries : List (Nat × τ)
  nodup : (entries.map (·.1)).Nodup

namespace Pool

variable {τ : Type*}

def empty : Pool τ := ⟨[], List.nodup_nil⟩

def get (p : Pool τ) : Slots τ := fun i => (p.entries.find? (·.1 == i)).map (·.2)

theorem put_nodup (p : Pool τ) (i : Nat) (t : Option τ) :
    ((t.toList.map (i, ·) ++ p.entries.filter (·.1 != i)).map (·.1)).Nodup := by
  have hrest : ((p.entries.filter (·.1 != i)).map (·.1)).Nodup :=
    p.nodup.sublist (List.filter_sublist.map _)
  have hnot : i ∉ (p.entries.filter (·.1 != i)).map (·.1) := by
    intro hi
    obtain ⟨q, hq, hqi⟩ := List.mem_map.1 hi
    have := (List.mem_filter.1 hq).2
    simp [hqi] at this
  cases t with
  | none => exact hrest
  | some u => exact List.nodup_cons.2 ⟨hnot, hrest⟩

/-- Task `i` goes on as `t`, or ends when `t = none`. -/
def put (p : Pool τ) (i : Nat) (t : Option τ) : Pool τ :=
  ⟨t.toList.map (i, ·) ++ p.entries.filter (·.1 != i), p.put_nodup i t⟩

@[simp] theorem get_empty (i : Nat) : (empty : Pool τ).get i = none := rfl

theorem mem_of_get {p : Pool τ} {i : Nat} {t : τ} (h : p.get i = some t) : (i, t) ∈ p.entries := by
  obtain ⟨⟨j, u⟩, hf, hu⟩ := Option.map_eq_some_iff.1 h
  have hj := List.find?_some hf
  simp only [beq_iff_eq] at hj hu
  subst hj hu
  exact List.mem_of_find?_eq_some hf

theorem get_of_mem {p : Pool τ} {i : Nat} {t : τ} (h : (i, t) ∈ p.entries) : p.get i = some t := by
  unfold get
  cases hf : p.entries.find? (·.1 == i) with
  | none =>
    have := List.find?_eq_none.1 hf (i, t) h
    simp at this
  | some q =>
    have hq := List.find?_some hf
    simp only [beq_iff_eq] at hq
    have heq := List.inj_on_of_nodup_map p.nodup (List.mem_of_find?_eq_some hf) h hq
    rw [heq]; rfl

@[simp] theorem get_put (p : Pool τ) (i : Nat) (t : Option τ) : (p.put i t).get = p.get.put i t := by
  funext j
  by_cases hj : j = i
  · subst hj
    rw [Slots.put_self]
    unfold get put
    cases t with
    | some u => simp
    | none => simp [List.find?_eq_none]
  · rw [Slots.put_of_ne _ _ hj]
    unfold get put
    have hne : (i == j) = false := by simpa using Ne.symm hj
    have hrest : ((p.entries.filter (·.1 != i)).find? (·.1 == j)) = p.entries.find? (·.1 == j) := by
      rw [List.find?_filter]
      congr 1
      funext q
      by_cases hq : q.1 = j
      · simp [hq, hj]
      · simp [hq]
    cases t with
    | some u => simp [hne, hrest]
    | none => simp [hrest]

/-- What a number holds after `put`: the task put there, or what another number held before. -/
theorem get_put_cases {p : Pool τ} {i j : Nat} {t : Option τ} {u : τ} (h : (p.put i t).get j = some u) :
    (j = i ∧ t = some u) ∨ (j ≠ i ∧ p.get j = some u) := by
  rw [get_put] at h
  exact Slots.put_eq_some h

theorem get_put_self (p : Pool τ) (i : Nat) (t : Option τ) : (p.put i t).get i = t := by
  rw [get_put, Slots.put_self]

theorem get_put_of_ne {p : Pool τ} {i j : Nat} {t : Option τ} (h : j ≠ i) : (p.put i t).get j = p.get j := by
  rw [get_put, Slots.put_of_ne _ _ h]

/-- Every entry changed in place. -/
def map (p : Pool τ) (f : τ → τ) : Pool τ :=
  ⟨p.entries.map fun e => (e.1, f e.2), by
    rw [List.map_map]
    exact p.nodup⟩

@[simp] theorem get_map (p : Pool τ) (f : τ → τ) (i : Nat) : (p.map f).get i = (p.get i).map f := by
  unfold get map
  rw [List.find?_map, Option.map_map, Option.map_map]
  rfl

/-! ### Counting -/

/-- What one entry adds to a count. -/
def weight (f : τ → Bool) (t : Option τ) : Nat := (t.map fun u => (f u).toNat).getD 0

@[simp] theorem weight_none (f : τ → Bool) : weight f none = 0 := rfl

@[simp] theorem weight_some (f : τ → Bool) (u : τ) : weight f (some u) = (f u).toNat := rfl

/-- The entries that pass a test. -/
def count (p : Pool τ) (f : τ → Bool) : Nat := p.entries.countP fun e => f e.2

@[simp] theorem count_empty (f : τ → Bool) : (empty : Pool τ).count f = 0 := rfl

/-- The entry of a number apart from the others. -/
theorem countP_split (f : τ → Bool) (i : Nat) : ∀ {l : List (Nat × τ)}, (l.map (·.1)).Nodup →
    l.countP (fun e => f e.2) =
      (l.filter (·.1 != i)).countP (fun e => f e.2) + weight f ((l.find? (·.1 == i)).map (·.2))
  | [], _ => rfl
  | (j, u) :: l, h => by
    obtain ⟨hnot, h⟩ := List.nodup_cons.1 h
    by_cases hj : j = i
    · subst hj
      have hrest : l.filter (·.1 != j) = l := by
        refine List.filter_eq_self.2 fun e he => ?_
        have : e.1 ≠ j := fun heq => hnot (List.mem_map.2 ⟨e, he, heq⟩)
        simpa using this
      rw [List.countP_cons, List.filter_cons_of_neg (by simp), hrest, List.find?_cons_of_pos (by simp)]
      cases hu : f u <;> simp [hu]
    · rw [List.countP_cons, List.filter_cons_of_pos (by simpa using hj), List.countP_cons,
        List.find?_cons_of_neg (by simpa using hj), countP_split f i h]
      omega

theorem count_put (p : Pool τ) (f : τ → Bool) (i : Nat) (t : Option τ) :
    (p.put i t).count f + weight f (p.get i) = p.count f + weight f t := by
  unfold count put get
  rw [countP_split f i p.nodup, List.countP_append]
  cases t with
  | none => simp
  | some u =>
    cases hu : f u
    · simp [hu]
    · simp [hu]
      omega

/-! ### Regions

`region t` is the key of the critical region task `t` is in, if it is in one. -/

section Regions

variable {κ : Type*} (region : τ → Option κ)

/-- No task other than `i` is in region `k`. -/
def Vacant (p : Pool τ) (i : Nat) (k : κ) : Prop :=
  ∀ j u, j ≠ i → p.get j = some u → region u ≠ some k

def vacant [DecidableEq κ] (p : Pool τ) (i : Nat) (k : κ) : Bool :=
  p.entries.all fun e => e.1 == i || region e.2 != some k

/-- At most one task is in each region. -/
def Exclusive (p : Pool τ) : Prop :=
  ∀ i t k, p.get i = some t → region t = some k → p.Vacant region i k

/-- Some task is in region `k`. -/
def occupied [DecidableEq κ] (p : Pool τ) (k : κ) : Bool := p.entries.any fun e => region e.2 == some k

variable {region}

theorem occupied_iff [DecidableEq κ] {p : Pool τ} {k : κ} :
    p.occupied region k = true ↔ ∃ i u, p.get i = some u ∧ region u = some k := by
  unfold occupied
  rw [List.any_eq_true]
  constructor
  · rintro ⟨⟨i, u⟩, hu, hk⟩
    exact ⟨i, u, get_of_mem hu, beq_iff_eq.1 hk⟩
  · rintro ⟨i, u, hu, hk⟩
    exact ⟨(i, u), mem_of_get hu, beq_iff_eq.2 hk⟩

/-- A region stays occupied when the task that moves stays in it. -/
theorem occupied_put [DecidableEq κ] {p : Pool τ} {i : Nat} {t : Option τ} {k : κ} (h : p.occupied region k = true)
    (hkeep : ∀ u, p.get i = some u → region u = some k → t.bind region = some k) :
    (p.put i t).occupied region k = true := by
  obtain ⟨j, u, hj, hu⟩ := occupied_iff.1 h
  refine occupied_iff.2 ?_
  by_cases hji : j = i
  · subst hji
    obtain ⟨v, hv, hk⟩ := Option.bind_eq_some_iff.1 (hkeep u hj hu)
    exact ⟨j, v, by rw [get_put, Slots.put_self, hv], hk⟩
  · exact ⟨j, u, by rw [get_put, Slots.put_of_ne _ _ hji, hj], hu⟩

theorem occupied_put_self [DecidableEq κ] {p : Pool τ} {i : Nat} {t : τ} {k : κ} (h : region t = some k) :
    (p.put i (some t)).occupied region k = true :=
  occupied_iff.2 ⟨i, t, by rw [get_put, Slots.put_self], h⟩

theorem vacant_iff [DecidableEq κ] {p : Pool τ} {i : Nat} {k : κ} :
    p.vacant region i k = true ↔ p.Vacant region i k := by
  unfold vacant
  rw [List.all_eq_true]
  constructor
  · intro h j u hj hu
    have := h (j, u) (mem_of_get hu)
    simpa [hj] using this
  · rintro h ⟨j, u⟩ hu
    by_cases hj : j = i
    · simp [hj]
    · simpa [hj] using h j u hj (get_of_mem hu)

theorem exclusive_empty : (empty : Pool τ).Exclusive region := by
  intro i t k h
  rw [get_empty] at h
  cases h

/-- A task may go on into a region no other task is in. -/
theorem Exclusive.put {p : Pool τ} (h : p.Exclusive region) (i : Nat) {t : Option τ}
    (hnew : ∀ k, t.bind region = some k → p.Vacant region i k) : (p.put i t).Exclusive region := by
  intro j u k hj hu l v hl hv
  rw [get_put] at hj hv
  rcases Slots.put_eq_some hj with ⟨rfl, rfl⟩ | ⟨hji, hj'⟩
  · rcases Slots.put_eq_some hv with ⟨rfl, -⟩ | ⟨hli, hv'⟩
    · exact absurd rfl hl
    · exact hnew k hu l v hli hv'
  · rcases Slots.put_eq_some hv with ⟨rfl, rfl⟩ | ⟨hli, hv'⟩
    · intro hk
      exact hnew k hk j u hji hj' hu
    · exact h j u k hj' hu l v hl hv'

end Regions

end Pool

end TransSys
