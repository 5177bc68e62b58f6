/-
Passes over a list that only take away: the spans between brackets, elements of a kind, both ends. What a pass leaves
is clean of what it takes away, and clean lists are left as they are. One pass may come before another as long as its
cleanness passes on to every part of a list: nothing that is taken away later can undo it.
-/
import Mathlib.Data.List.DropRight
import Mathlib.Tactic.Common

namespace Livetich.Lib

variable {α : Type*}

structure Pass (α : Type*) where
  run : List α → List α
  Clean : List α → Prop
  sublist : ∀ l, (run l).Sublist l
  clean : ∀ l, Clean (run l)
  fixes : ∀ l, Clean l → run l = l

/-- What holds of a list holds of whatever is left of it. -/
def Hereditary (P : List α → Prop) : Prop := ∀ ⦃l m : List α⦄, l.Sublist m → P m → P l

theorem Hereditary.and {P Q : List α → Prop} (hP : Hereditary P) (hQ : Hereditary Q) :
    Hereditary fun l => P l ∧ Q l :=
  fun _ _ hl h => ⟨hP hl h.1, hQ hl h.2⟩

namespace Pass

theorem run_run (p : Pass α) (l : List α) : p.run (p.run l) = p.run l := p.fixes _ (p.clean l)

/-- One pass after another. -/
def andThen (p q : Pass α) (h : Hereditary p.Clean) : Pass α where
  run l := q.run (p.run l)
  Clean l := p.Clean l ∧ q.Clean l
  sublist l := (q.sublist (p.run l)).trans (p.sublist l)
  clean l := ⟨h (q.sublist (p.run l)) (p.clean l), q.clean (p.run l)⟩
  fixes l hl := by rw [p.fixes l hl.1, q.fixes l hl.2]

end Pass

/-! ## Spans between brackets -/

section Spans

variable {o c : α} {l : List α}

/-- No opening bracket is closed later on. -/
def Spanless (o c : α) (l : List α) : Prop := ¬[o, c].Sublist l

theorem spanless_hereditary (o c : α) : Hereditary (Spanless o c) := fun _ _ hl h hsub => h (hsub.trans hl)

theorem spanless_cons {x : α} : Spanless o c (x :: l) ↔ ¬(x = o ∧ c ∈ l) ∧ Spanless o c l := by
  unfold Spanless
  constructor
  · intro h
    refine ⟨?_, fun hsub => h (hsub.cons x)⟩
    rintro ⟨rfl, hmem⟩
    exact h ((List.singleton_sublist.2 hmem).cons_cons x)
  · rintro ⟨hx, hl⟩ hsub
    cases hsub with
    | cons _ hsub => exact hl hsub
    | cons_cons _ hsub => exact hx ⟨rfl, List.singleton_sublist.1 hsub⟩

theorem Spanless.split_ne (h : Spanless o c l) (before between after : List α) :
    l ≠ before ++ o :: between ++ c :: after := by
  rintro rfl
  refine h ?_
  rw [List.append_assoc]
  refine List.Sublist.trans ?_ (List.sublist_append_right _ _)
  refine List.Sublist.cons_cons o ?_
  exact List.singleton_sublist.2 (List.mem_append_right _ List.mem_cons_self)

variable [DecidableEq α]

/-- Each opening bracket that is closed later on is dropped with all that follows up to the first closing one. The flag
tells that such a span has begun. -/
def dropSpans (o c : α) : Bool → List α → List α
  | _, [] => []
  | true, x :: xs => dropSpans o c (x ≠ c) xs
  | false, x :: xs => if x = o ∧ c ∈ xs then dropSpans o c true xs else x :: dropSpans o c false xs

theorem dropSpans_spanned (o c x : α) (xs : List α) :
    dropSpans o c true (x :: xs) = dropSpans o c (x ≠ c) xs :=
  rfl

theorem dropSpans_cons (o c x : α) (xs : List α) : dropSpans o c false (x :: xs) =
    if x = o ∧ c ∈ xs then dropSpans o c true xs else x :: dropSpans o c false xs :=
  rfl

theorem dropSpans_sublist (o c : α) (spanned : Bool) (l : List α) : (dropSpans o c spanned l).Sublist l := by
  fun_induction dropSpans o c spanned l with
  | case1 => exact List.Sublist.refl []
  | case2 x xs ih => exact ih.cons x
  | case3 x xs _ ih => exact ih.cons x
  | case4 x xs _ ih => exact ih.cons_cons x

theorem spanless_dropSpans (o c : α) (spanned : Bool) (l : List α) : Spanless o c (dropSpans o c spanned l) := by
  fun_induction dropSpans o c spanned l with
  | case1 => exact fun hsub => absurd (List.sublist_nil.1 hsub) (List.cons_ne_nil _ _)
  | case2 x xs ih => exact ih
  | case3 x xs _ ih => exact ih
  | case4 x xs hx ih =>
    refine spanless_cons.2 ⟨?_, ih⟩
    -- A bracket stays only where none closes it, and nothing is added after it.
    rintro ⟨rfl, hmem⟩
    exact hx ⟨rfl, (dropSpans_sublist x c false xs).subset hmem⟩

theorem dropSpans_of_spanless (h : Spanless o c l) : dropSpans o c false l = l := by
  induction l with
  | nil => rfl
  | cons x xs ih =>
    obtain ⟨hx, hxs⟩ := spanless_cons.1 h
    rw [dropSpans_cons, if_neg hx, ih hxs]

/-- What comes after the span that has begun. -/
theorem dropSpans_true (o c : α) (l : List α) : dropSpans o c true l =
    match l.dropWhile (· ≠ c) with
    | [] => []
    | _ :: rest => dropSpans o c false rest := by
  induction l with
  | nil => rfl
  | cons x xs ih =>
    rw [dropSpans_spanned, List.dropWhile_cons]
    by_cases hx : x = c
    · simp [hx]
    · simp only [ne_eq, hx, not_false_eq_true, decide_true, if_true, ih]

def spanPass (o c : α) : Pass α where
  run := dropSpans o c false
  Clean := Spanless o c
  sublist := dropSpans_sublist o c false
  clean := spanless_dropSpans o c false
  fixes _ := dropSpans_of_spanless

end Spans

/-! ## Elements of a kind -/

theorem forall_mem_hereditary (P : α → Prop) : Hereditary fun l => ∀ x ∈ l, P x :=
  fun _ _ hl h x hx => h x (hl.subset hx)

def filterPass (p : α → Bool) : Pass α where
  run l := l.filter p
  Clean l := ∀ x ∈ l, p x = true
  sublist _ := List.filter_sublist
  clean _ _ hx := (List.mem_filter.1 hx).2
  fixes _ := List.filter_eq_self.2

/-! ## Both ends -/

/-- Neither end has the property. -/
structure Trimmed (p : α → Bool) (l : List α) : Prop where
  head : ∀ x ∈ l.head?, p x = false
  last : ∀ x ∈ l.getLast?, p x = false

def trimBy (p : α → Bool) (l : List α) : List α := (l.dropWhile p).rdropWhile p

theorem trimmed_trimBy (p : α → Bool) (l : List α) : Trimmed p (trimBy p l) := by
  constructor
  · intro x hx
    obtain ⟨rest, hrest⟩ := List.rdropWhile_prefix p (l.dropWhile p)
    have hhead : (l.dropWhile p).head? = some x := by
      rw [← hrest, List.head?_append]
      unfold trimBy at hx
      rw [Option.mem_def.1 hx]
      rfl
    have hnot := List.head?_dropWhile_not p l
    rw [hhead] at hnot
    simpa using hnot
  · intro x hx
    unfold trimBy at hx
    have hne : (l.dropWhile p).rdropWhile p ≠ [] := fun hnil => by rw [hnil] at hx; cases hx
    rw [List.getLast?_eq_getLast_of_ne_nil hne] at hx
    cases hx
    simpa using List.rdropWhile_last_not p (l.dropWhile p) hne

theorem trimBy_of_trimmed {p : α → Bool} {l : List α} (h : Trimmed p l) : trimBy p l = l := by
  have hdrop : l.dropWhile p = l := by
    cases l with
    | nil => rfl
    | cons x xs => rw [List.dropWhile_cons, h.head x rfl, if_neg Bool.false_ne_true]
  unfold trimBy
  rw [hdrop, List.rdropWhile_eq_self_iff]
  intro hne
  simpa using h.last _ (List.getLast?_eq_getLast_of_ne_nil hne)

def trimPass (p : α → Bool) : Pass α where
  run := trimBy p
  Clean := Trimmed p
  sublist _ := (List.rdropWhile_prefix p _).sublist.trans (List.dropWhile_suffix p).sublist
  clean := trimmed_trimBy p
  fixes _ := trimBy_of_trimmed

/-! ## Lists that are spelled out

Each element stands for one or more letters, and a test of the letters tells what a test of the elements does. -/

section Spelled

variable {β : Type*} {f : α → List β} {p : α → Bool} {q : β → Bool}

/-- Brackets that are spelled with one letter each, which no other element has. -/
structure Brackets (f : α → List β) (o c : α) (o' c' : β) : Prop where
  opening : f o = [o']
  closing : f c = [c']
  opens : ∀ x, o' ∈ f x → x = o
  closes : ∀ x, c' ∈ f x → x = c

theorem dropSpans_append [DecidableEq β] {o c : β} {l : List β} (ho : o ∉ l) (hc : c ∉ l) (r : List β) :
    dropSpans o c true (l ++ r) = dropSpans o c true r ∧ dropSpans o c false (l ++ r) = l ++ dropSpans o c false r := by
  induction l with
  | nil => exact ⟨rfl, rfl⟩
  | cons x xs ih =>
    rw [List.mem_cons, not_or] at ho hc
    obtain ⟨ihTrue, ihFalse⟩ := ih ho.2 hc.2
    constructor
    · rw [List.cons_append, dropSpans_spanned, decide_eq_true (Ne.symm hc.1), ihTrue]
    · rw [List.cons_append, dropSpans_cons, if_neg fun h => ho.1 h.1.symm, ihFalse, List.cons_append]

theorem dropSpans_flatMap [DecidableEq α] [DecidableEq β] {o c : α} {o' c' : β} (h : Brackets f o c o' c')
    (spanned : Bool) (l : List α) :
    dropSpans o' c' spanned (l.flatMap f) = (dropSpans o c spanned l).flatMap f := by
  have hclosed (l : List α) : c' ∈ l.flatMap f ↔ c ∈ l := by
    rw [List.mem_flatMap]
    constructor
    · rintro ⟨x, hx, hmem⟩
      exact h.closes x hmem ▸ hx
    · exact fun hx => ⟨c, hx, by rw [h.closing]; exact List.mem_singleton_self c'⟩
  induction l generalizing spanned with
  | nil => cases spanned <;> rfl
  | cons x xs ih =>
    by_cases hx : ∃ y, f x = [y]
    · obtain ⟨y, hy⟩ := hx
      have hopens : y = o' ↔ x = o :=
        ⟨fun h' => h.opens x (by rw [hy, h']; exact List.mem_singleton_self o'),
          fun h' => by rw [h', h.opening] at hy; exact (List.singleton_inj.1 hy).symm⟩
      have hcloses : y = c' ↔ x = c :=
        ⟨fun h' => h.closes x (by rw [hy, h']; exact List.mem_singleton_self c'),
          fun h' => by rw [h', h.closing] at hy; exact (List.singleton_inj.1 hy).symm⟩
      rw [List.flatMap_cons, hy, List.singleton_append]
      cases spanned with
      | true => simp only [dropSpans_spanned, ne_eq, hcloses, ih]
      | false =>
        simp only [dropSpans_cons, hopens, hclosed]
        split
        · rw [ih]
        · rw [List.flatMap_cons, hy, ih, List.singleton_append]
    · -- What is not spelled with one letter is no bracket.
      have ho : x ≠ o := by
        rintro rfl
        exact hx ⟨o', h.opening⟩
      have hc : x ≠ c := by
        rintro rfl
        exact hx ⟨c', h.closing⟩
      obtain ⟨htrue, hfalse⟩ := dropSpans_append (mt (h.opens x) ho) (mt (h.closes x) hc) (xs.flatMap f)
      rw [List.flatMap_cons]
      cases spanned with
      | true => rw [htrue, ih, dropSpans_spanned, decide_eq_true hc]
      | false => rw [hfalse, ih, dropSpans_cons, if_neg fun hx => ho hx.1, List.flatMap_cons]

theorem filter_flatMap (h : ∀ x, ∀ y ∈ f x, q y = p x) (l : List α) :
    (l.flatMap f).filter q = (l.filter p).flatMap f := by
  induction l with
  | nil => rfl
  | cons x xs ih =>
    rw [List.flatMap_cons, List.filter_append, ih, List.filter_cons]
    cases hx : p x with
    | false =>
      have hnone : (f x).filter q = [] :=
        List.filter_eq_nil_iff.2 fun y hy => by rw [h x y hy, hx]; exact Bool.false_ne_true
      rw [if_neg Bool.false_ne_true, hnone, List.nil_append]
    | true => rw [if_pos rfl, List.flatMap_cons, List.filter_eq_self.2 fun y hy => (h x y hy).trans hx]

theorem dropWhile_flatMap (hne : ∀ x, f x ≠ []) (h : ∀ x, ∀ y ∈ f x, q y = p x) (l : List α) :
    (l.flatMap f).dropWhile q = (l.dropWhile p).flatMap f := by
  induction l with
  | nil => rfl
  | cons x xs ih =>
    rw [List.flatMap_cons, List.dropWhile_cons]
    cases hx : p x with
    | false =>
      obtain ⟨y, ys, hys⟩ := List.exists_cons_of_ne_nil (hne x)
      have hy : q y = false := (h x y (by rw [hys]; exact List.mem_cons_self)).trans hx
      rw [if_neg Bool.false_ne_true, List.flatMap_cons, hys, List.cons_append, List.dropWhile_cons, hy,
        if_neg Bool.false_ne_true]
    | true =>
      rw [if_pos rfl, List.dropWhile_append_of_pos fun y hy => (h x y hy).trans hx, ih]

theorem rdropWhile_flatMap (hne : ∀ x, f x ≠ []) (h : ∀ x, ∀ y ∈ f x, q y = p x) (l : List α) :
    (l.flatMap f).rdropWhile q = (l.rdropWhile p).flatMap f := by
  unfold List.rdropWhile
  have hreverse : (l.flatMap f).reverse = l.reverse.flatMap fun x => (f x).reverse := List.reverse_flatMap
  rw [hreverse, dropWhile_flatMap (fun x => by simpa using hne x) (fun x y hy => h x y (by simpa using hy)),
    List.reverse_flatMap]
  simp [Function.comp_def]

theorem trimBy_flatMap (hne : ∀ x, f x ≠ []) (h : ∀ x, ∀ y ∈ f x, q y = p x) (l : List α) :
    trimBy q (l.flatMap f) = (trimBy p l).flatMap f := by
  unfold trimBy
  rw [dropWhile_flatMap hne h, rdropWhile_flatMap hne h]

end Spelled

end Livetich.Lib
