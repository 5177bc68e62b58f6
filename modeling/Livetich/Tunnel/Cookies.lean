/-
The two readers of the preview cookie: `parseCookie` of the proxy, which makes a record of all cookies, and
`cookieToken` of the preview WebSocket, which looks for the one it needs.
-/
import Livetich.Js.Uri
import Livetich.Lib.Filled

namespace Livetich.Tunnel.Cookies

open Livetich.Lib Livetich.Js

/-! ## The readers -/

/-- A cookie as it stands in the header: its name and its value, not decoded. -/
abbrev Cookie := List Char × List Char

/-- `const [k, ...v] = item.trim().split('=')`, and the rest joined again. -/
def cookieOf (item : List Char) : Cookie :=
  match (trim item).splitOn '=' with
  | [] => ([], [])
  | name :: value => (name, ['='].intercalate value)

def cookies (header : Option (List Char)) : List Cookie :=
  match header with
  | none => []
  | some header => (header.splitOn ';').map cookieOf

/-- An error tells the name of the cookie that could not be decoded. -/
abbrev Result (α : Type) := Except (List Char) α

/-- One round of `parseCookie`. -/
def setCookie (res : Table (List Char) (List Char)) (c : Cookie) : Result (Table (List Char) (List Char)) :=
  if c.1 = [] then .ok res
  else match decodeURIComponent c.2 with
    | none => .error c.1
    | some value => .ok (res.upsert c.1 fun _ => value)

def parseCookie (header : Option (List Char)) : Result (Table (List Char) (List Char)) :=
  (cookies header).foldlM setCookie Table.empty

def tokenName : List Char := "livetich_proxy_token".toList

def cookieToken (header : Option (List Char)) : Result (Option (List Char)) :=
  match (cookies header).find? fun c => c.1 = tokenName with
  | none => .ok none
  | some c => match decodeURIComponent c.2 with
    | none => .error c.1
    | some value => .ok (some value)

/-- What the proxy reads from the record. -/
def proxyToken (header : Option (List Char)) : Result (Option (List Char)) :=
  (parseCookie header).map fun res => res.get tokenName

/-! ## The record -/

/-- The cookies that have a name. -/
def named (header : Option (List Char)) : List Cookie := (cookies header).filter fun c => c.1 ≠ []

def WellFormed (c : Cookie) : Prop := (decodeURIComponent c.2).isSome = true

instance decidableWellFormed (c : Cookie) : Decidable (WellFormed c) := inferInstanceAs (Decidable (_ = _))

def valueOf (c : Cookie) : List Char := (decodeURIComponent c.2).getD []

/-- The record holds the named cookies, or the first that is malformed throws. -/
theorem foldlM_setCookie : ∀ (cs : List Cookie) (res : Table (List Char) (List Char)),
    cs.foldlM setCookie res = match (cs.filter fun c => c.1 ≠ []).find? fun c => ¬ WellFormed c with
    | some c => .error c.1
    | none => .ok (Table.fill (·.1) (fun c _ => valueOf c) res (cs.filter fun c => c.1 ≠ []))
  | [], res => rfl
  | c :: cs, res => by
    rw [List.foldlM_cons, setCookie]
    by_cases hname : c.1 = []
    · rw [if_pos hname, List.filter_cons_of_neg (by simpa using hname)]
      exact foldlM_setCookie cs res
    · rw [if_neg hname, List.filter_cons_of_pos (by simpa using hname)]
      cases hvalue : decodeURIComponent c.2 with
      | none =>
        have hbad : ¬ WellFormed c := by simp [WellFormed, hvalue]
        rw [List.find?_cons_of_pos (by simpa using hbad)]
        rfl
      | some value =>
        have hwell : WellFormed c := by simp [WellFormed, hvalue]
        have hset : value = valueOf c := by simp [valueOf, hvalue]
        rw [List.find?_cons_of_neg (by simpa using hwell), hset]
        exact foldlM_setCookie cs _

/-! ## Where the two agree -/

/-- The named cookies before the first token. -/
def before (header : Option (List Char)) : List Cookie := (named header).takeWhile fun c => c.1 ≠ tokenName

def tokens (header : Option (List Char)) : List Cookie := (named header).filter fun c => c.1 = tokenName

/-- The named cookies before the first token are well formed; and then the first token is malformed, or all named
cookies are well formed and the last token has the value of the first. -/
def Agree (header : Option (List Char)) : Prop :=
  (∀ c ∈ before header, WellFormed c) ∧
    ((∃ c, (tokens header).head? = some c ∧ ¬ WellFormed c) ∨
      ((∀ c ∈ named header, WellFormed c) ∧ (tokens header).head?.map valueOf = (tokens header).getLast?.map valueOf))

theorem find_cookies (header : Option (List Char)) :
    ((cookies header).find? fun c => c.1 = tokenName) = (tokens header).head? := by
  have hnamed : ∀ c : Cookie, (decide (c.1 ≠ []) && decide (c.1 = tokenName)) = decide (c.1 = tokenName) := by
    intro c
    by_cases hc : c.1 = tokenName
    · rw [hc]
      decide
    · simp [hc]
  unfold tokens named
  rw [List.filter_filter, List.head?_filter]
  congr 1
  funext c
  rw [Bool.and_comm, hnamed]

theorem cookieToken_eq (header : Option (List Char)) : cookieToken header = match (tokens header).head? with
    | none => .ok none
    | some c => if WellFormed c then .ok (some (valueOf c)) else .error tokenName := by
  unfold cookieToken
  rw [find_cookies]
  cases hfirst : (tokens header).head? with
  | none => rfl
  | some c =>
    have hname : c.1 = tokenName := by simpa using (List.mem_filter.1 (List.mem_of_head? hfirst)).2
    show (match decodeURIComponent c.2 with | none => Except.error c.1 | some value => .ok (some value)) = _
    cases hvalue : decodeURIComponent c.2 with
    | none => simp [WellFormed, hvalue, hname]
    | some value => simp [WellFormed, valueOf, hvalue]

theorem proxyToken_eq (header : Option (List Char)) : proxyToken header =
    match (named header).find? fun c => ¬ WellFormed c with
    | some c => .error c.1
    | none => .ok ((tokens header).getLast?.map valueOf) := by
  unfold proxyToken parseCookie
  rw [foldlM_setCookie]
  unfold named
  cases ((cookies header).filter fun c => c.1 ≠ []).find? fun c => ¬ WellFormed c with
  | some c => rfl
  | none => exact congrArg Except.ok (Table.get_setAll _ _ _ _)

/-- The cookies before the first token, that token, and others. -/
theorem named_split {header : Option (List Char)} {c : Cookie} (h : (tokens header).head? = some c) :
    c.1 = tokenName ∧ ∃ rest, named header = before header ++ c :: rest := by
  have hname : c.1 = tokenName := by simpa using (List.mem_filter.1 (List.mem_of_head? h)).2
  refine ⟨hname, ((named header).dropWhile fun c => c.1 ≠ tokenName).tail, ?_⟩
  have hfirst : ((named header).dropWhile fun c => c.1 ≠ tokenName).head? = some c := by
    rw [← h, tokens, List.head?_filter, List.find?_eq_head?_dropWhile_not]
    simp
  obtain ⟨rest, hrest⟩ := List.head?_eq_some_iff.1 hfirst
  rw [hrest, List.tail_cons, ← hrest]
  exact (List.takeWhile_append_dropWhile).symm

theorem find_malformed_none {cs : List Cookie} :
    (cs.find? fun c => ¬ WellFormed c) = none ↔ ∀ c ∈ cs, WellFormed c := by
  simp [List.find?_eq_none]

/-- The two readers come to the same, token, none or an error of the token's own, exactly on such headers. -/
theorem readers_agree_iff (header : Option (List Char)) : proxyToken header = cookieToken header ↔ Agree header := by
  have hbefore : ∀ c ∈ before header, c ∈ named header := fun c hc => List.takeWhile_subset _ hc
  rw [proxyToken_eq, cookieToken_eq]
  unfold Agree
  cases hfirst : (tokens header).head? with
  | none =>
    -- without a token the gateway decodes nothing, the proxy every cookie
    rw [List.head?_eq_none_iff] at hfirst
    cases hbad : (named header).find? fun c => ¬ WellFormed c with
    | none =>
      have hall := find_malformed_none.1 hbad
      simp only [hfirst]
      exact ⟨fun _ => ⟨fun c hc => hall c (hbefore c hc), .inr ⟨hall, rfl⟩⟩, fun _ => rfl⟩
    | some c =>
      constructor
      · intro h
        cases h
      · rintro ⟨-, ⟨c', hc', -⟩ | ⟨hall, -⟩⟩
        · cases hc'
        · rw [find_malformed_none.2 hall] at hbad
          cases hbad
  | some c =>
    obtain ⟨hname, rest, hsplit⟩ := named_split hfirst
    by_cases hwell : WellFormed c
    · -- the gateway takes the first token, the proxy the last
      simp only [if_pos hwell]
      cases hbad : (named header).find? fun c => ¬ WellFormed c with
      | none =>
        have hall := find_malformed_none.1 hbad
        constructor
        · intro h
          exact ⟨fun c hc => hall c (hbefore c hc), .inr ⟨hall, (Except.ok.inj h).symm⟩⟩
        · rintro ⟨-, ⟨c', hc', hmalformed⟩ | ⟨-, hlast⟩⟩
          · cases hc'
            exact absurd hwell hmalformed
          · exact congrArg Except.ok hlast.symm
      | some c' =>
        constructor
        · intro h
          cases h
        · rintro ⟨-, ⟨c'', hc'', hmalformed⟩ | ⟨hall, -⟩⟩
          · cases hc''
            exact absurd hwell hmalformed
          · rw [find_malformed_none.2 hall] at hbad
            cases hbad
    · -- the token itself is malformed: the proxy must come to it first
      simp only [if_neg hwell]
      rw [hsplit, List.find?_append]
      cases hearlier : (before header).find? fun c => ¬ WellFormed c with
      | none =>
        have hall := find_malformed_none.1 hearlier
        rw [Option.none_or, List.find?_cons_of_pos (by simpa using hwell)]
        exact ⟨fun _ => ⟨hall, .inl ⟨c, rfl, hwell⟩⟩, fun _ => congrArg Except.error hname⟩
      | some c' =>
        have hmem := List.mem_of_find?_eq_some hearlier
        have hother : c'.1 ≠ tokenName := by simpa using List.mem_takeWhile_imp hmem
        rw [Option.some_or]
        constructor
        · intro h
          exact absurd (Except.error.inj h) hother
        · rintro ⟨hall, -⟩
          rw [find_malformed_none.2 hall] at hearlier
          cases hearlier

namespace Example

/-- The previewed application sets a cookie of its own, which is no percent-encoding. -/
def lonePercent : List Char := "a=%; livetich_proxy_token=x".toList

def twice : List Char := "livetich_proxy_token=x; livetich_proxy_token=y".toList

end Example

open Example in
theorem readers_differ :
    (proxyToken (some lonePercent) = .error ['a'] ∧ cookieToken (some lonePercent) = .ok (some ['x'])) ∧
      (proxyToken (some twice) = .ok (some ['y']) ∧ cookieToken (some twice) = .ok (some ['x'])) := by
  decide

end Livetich.Tunnel.Cookies
