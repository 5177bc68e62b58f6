/-
The hosts of previews: `previewUrl`, which makes one of a session and a port, and the two that read it, the
middleware of the server and `acceptUpgrade` of the preview WebSocket. Every preview has an origin of its own.
-/
import Livetich.Js.Number
import Livetich.Lib.Digits

namespace Livetich.Tunnel.Preview

open Livetich.Js
open Livetich.Lib (isDigit width width_le_iff)

/-! ## Settings -/

/-- `toLowerCase`, character by character; how characters outside ASCII are lowered is a parameter. -/
structure Lower where
  other : Char → List Char
  /-- None of them is dropped or becomes a dot. -/
  other_ne : ∀ c, ¬ c.toNat < 128 → other c ≠ [] ∧ '.' ∉ other c

def Lower.char (l : Lower) (c : Char) : List Char := if c.toNat < 128 then [c.toLower] else l.other c

def Lower.lower (l : Lower) (cs : List Char) : List Char := cs.flatMap l.char

structure Env where
  previewDomain : Option (List Char)
  previewBaseUrl : Option (List Char)
  port : Option Nat
  production : Bool

/-- `replace(/^\.+|\.+$/g, '')`. -/
def stripDots (cs : List Char) : List Char := ((cs.dropWhile (· = '.')).reverse.dropWhile (· = '.')).reverse

/-- The domain as a URL is made with it; an empty one is none. -/
def configuredDomain (env : Env) : Option (List Char) :=
  (env.previewDomain.map fun d => stripDots (trim d)).filter (· ≠ [])

/-- The domain as a host is read with it. -/
def previewDomain (l : Lower) (env : Env) : Option (List Char) :=
  (env.previewDomain.map fun d => stripDots (l.lower (trim d))).filter (· ≠ [])

/-! ## The URL -/

/-- The host of a URL, with its port: what stands between the slashes, without user and password. -/
def hostPart (url : List Char) : List Char :=
  let authority := ((url.dropWhile (· ≠ '/')).drop 2).takeWhile fun c => !"/?#\\".toList.contains c
  (authority.reverse.takeWhile (· ≠ '@')).reverse

/-- `URL` on a base: the host with its port once its hostname is set, and none where the base is no URL. An
HTTP URL takes a hostname of lower-case letters, digits and dashes, no label of it in Punycode. -/
structure UrlClass where
  setHostname : List Char → List Char → Option (List Char)
  http : List Char → Bool
  set_host : ∀ {base name host : List Char}, http base = true →
    (∀ c ∈ name, c.isLower = true ∨ isDigit c = true ∨ c = '-') → ¬ "xn--".toList <+: name →
    setHostname base (name ++ ".localhost".toList) = some host →
    ∃ port, host = name ++ ".localhost".toList ++ port ∧ (port = [] ∨ port.head? = some ':')

def sessionHost (sessionId : List Char) (port : Nat) : List Char := sessionId ++ '-' :: Nat.toDigits 10 port

def configuredBase (env : Env) : Option (List Char) := (env.previewBaseUrl.map trim).filter (· ≠ [])

/-- The host part of `previewUrl`. -/
def previewHost (url : UrlClass) (env : Env) (sessionId : List Char) (port : Nat) : Option (List Char) :=
  match configuredDomain env with
  | some domain => some (hostPart ("https://".toList ++ sessionHost sessionId port ++ '.' :: domain ++ ['/']))
  | none =>
    match configuredBase env with
    | some base => url.setHostname base (sessionHost sessionId port ++ ".localhost".toList)
    | none => some (hostPart ("http://".toList ++ sessionHost sessionId port ++ ".localhost:".toList ++
        Nat.toDigits 10 (env.port.getD 3000) ++ ['/']))

/-! ## Reading a host -/

/-- What ends a line, which a dot of a pattern does not match. -/
def isLineEnd (c : Char) : Bool := c = '\n' || c = '\r' || c = '\u2028' || c = '\u2029'

/-- `/^(.+)-(\d{1,5})$/`: the digits at the end are taken off with the dash in front of them. -/
def matchPort (cs : List Char) : Option (List Char × Nat) :=
  let digits := (cs.reverse.takeWhile isDigit).reverse
  match cs.reverse.dropWhile isDigit with
  | '-' :: name =>
    if name ≠ [] ∧ name.all (fun c => !isLineEnd c) = true ∧ 1 ≤ digits.length ∧ digits.length ≤ 5 then
      some (name.reverse, Nat.ofDigitChars 10 digits 0)
    else none
  | _ => none

/-- `hostname.slice(0, -suffix.length)` where the hostname ends with it. -/
def dropSuffix (suffix hostname : List Char) : Option (List Char) :=
  if suffix.isSuffixOf hostname then some (hostname.take (hostname.length - suffix.length)) else none

def subdomainOf (l : Lower) (env : Env) (hostname : List Char) : Option (List Char) :=
  ((previewDomain l env).bind fun domain => dropSuffix ('.' :: domain) hostname).or
    (if env.production then none else dropSuffix ".localhost".toList hostname)

/-- The session and the port of a hostname; a port out of range is none. -/
def denotes (l : Lower) (env : Env) (hostname : List Char) : Option (List Char × Nat) :=
  ((subdomainOf l env hostname).bind matchPort).filter fun r => 1 ≤ r.2 ∧ r.2 ≤ 65535

/-- `req.hostname` of Express: up to the port, which in a host that begins with a bracket follows the bracket's end;
there is none for the empty host. -/
def reqHostname (host : List Char) : Option (List Char) :=
  if host = [] then none
  else
    let offset := if host.head? = some '[' then ((host.findIdx? (· = ']')).map (· + 1)).getD 0 else 0
    some (host.take offset ++ (host.drop offset).takeWhile (· ≠ ':'))

/-- The middleware; without a hostname it throws. -/
def middleware (l : Lower) (env : Env) (host : List Char) : Except String (Option (List Char × Nat)) :=
  match reqHostname host with
  | none => .error "Cannot read properties of undefined (reading 'toLowerCase')"
  | some hostname => .ok (denotes l env (l.lower hostname))

def acceptUpgrade (l : Lower) (env : Env) (host : Option (List Char)) : Option (List Char × Nat) :=
  denotes l env (l.lower (((host.getD []).splitOn ':').headD []))

/-! ## Lower case and dots -/

variable {l : Lower} {env : Env}

@[simp] theorem lower_append (xs ys : List Char) : l.lower (xs ++ ys) = l.lower xs ++ l.lower ys := List.flatMap_append

theorem char_dot : l.char '.' = ['.'] := rfl

theorem char_ne_nil (c : Char) : l.char c ≠ [] := by
  unfold Lower.char
  split
  · simp
  · rename_i hother
    exact (l.other_ne c hother).1

/-- Only a dot becomes a dot. -/
theorem dot_mem_char {c : Char} : '.' ∈ l.char c ↔ c = '.' := by
  constructor
  · intro h
    unfold Lower.char at h
    split at h
    · rename_i hascii
      have hall : ∀ n : Fin 128, '.' = (Char.ofNat n).toLower → Char.ofNat n = '.' := by decide
      have hc := hall ⟨c.toNat, hascii⟩
      rw [Char.ofNat_toNat] at hc
      exact hc (List.mem_singleton.1 h)
    · rename_i hother
      exact absurd h (l.other_ne c hother).2
  · rintro rfl
    rw [char_dot]
    exact List.mem_cons_self

theorem dropWhile_flatMap {f : Char → List Char} (hdot : f '.' = ['.']) (hother : ∀ c, c ≠ '.' → f c ≠ [] ∧ '.' ∉ f c) :
    ∀ cs : List Char, (cs.flatMap f).dropWhile (· = '.') = (cs.dropWhile (· = '.')).flatMap f
  | [] => rfl
  | c :: cs => by
    by_cases hc : c = '.'
    · subst hc
      rw [List.flatMap_cons, hdot, List.singleton_append, List.dropWhile_cons_of_pos (by simp),
        List.dropWhile_cons_of_pos (by simp), dropWhile_flatMap hdot hother cs]
    · obtain ⟨hne, hmem⟩ := hother c hc
      obtain ⟨d, ds, hd⟩ := List.exists_cons_of_ne_nil hne
      have hd' : d ≠ '.' := by
        rintro rfl
        exact hmem (hd ▸ List.mem_cons_self)
      rw [List.dropWhile_cons_of_neg (by simpa using hc), List.flatMap_cons, hd, List.cons_append,
        List.dropWhile_cons_of_neg (by simpa using hd')]

/-- Dots are stripped before or after lowering. -/
theorem stripDots_lower (cs : List Char) : stripDots (l.lower cs) = l.lower (stripDots cs) := by
  have hother : ∀ c, c ≠ '.' → l.char c ≠ [] ∧ '.' ∉ l.char c :=
    fun c hc => ⟨char_ne_nil c, fun h => hc (dot_mem_char.1 h)⟩
  have hback : ∀ c, c ≠ '.' → (l.char c).reverse ≠ [] ∧ '.' ∉ (l.char c).reverse := by
    intro c hc
    obtain ⟨hne, hmem⟩ := hother c hc
    exact ⟨by simpa using hne, by simpa using hmem⟩
  unfold stripDots Lower.lower
  rw [dropWhile_flatMap char_dot hother, List.reverse_flatMap, dropWhile_flatMap (f := List.reverse ∘ l.char) rfl hback,
    List.reverse_flatMap]
  congr 1
  funext c
  simp

theorem lower_eq_nil {cs : List Char} : l.lower cs = [] ↔ cs = [] := by
  constructor
  · intro h
    cases cs with
    | nil => rfl
    | cons c cs =>
      rw [Lower.lower, List.flatMap_cons, List.append_eq_nil_iff] at h
      exact absurd h.1 (char_ne_nil c)
  · rintro rfl
    rfl

/-- The domain that is read is the configured one in lower case. -/
theorem previewDomain_eq : previewDomain l env = (configuredDomain env).map l.lower := by
  unfold previewDomain configuredDomain
  cases env.previewDomain with
  | none => rfl
  | some d =>
    simp only [Option.map_some, stripDots_lower, Option.filter_some]
    by_cases hd : stripDots (trim d) = []
    · simp [hd, Lower.lower]
    · have hlower : l.lower (stripDots (trim d)) ≠ [] := fun h => hd (lower_eq_nil.1 h)
      simp [hd, hlower]

/-! ## The session and the port -/

/-- A character of a session id. -/
def isIdChar (c : Char) : Bool := c.isLower || isDigit c || c = '-'

def IsSessionId (sessionId : List Char) : Prop := sessionId ≠ [] ∧ ∀ c ∈ sessionId, isIdChar c = true

instance decidableIsSessionId (sessionId : List Char) : Decidable (IsSessionId sessionId) :=
  decidable_of_iff ((!sessionId.isEmpty && sessionId.all isIdChar) = true) (by simp [IsSessionId])

/-- Such a character ends no host, and it is its own lower case. -/
theorem isIdChar_spec {c : Char} (h : isIdChar c = true) : (c.toNat < 128 ∧ c.toLower = c) ∧ isLineEnd c = false ∧
    c ≠ ':' ∧ c ≠ '[' ∧ c ≠ '@' ∧ "/?#\\".toList.contains c = false := by
  have hascii : c.toNat < 128 := by
    unfold isIdChar isDigit at h
    simp only [Bool.or_eq_true, decide_eq_true_eq, Bool.and_eq_true] at h
    rcases h with (h | h) | h
    · have hle : c.val.toNat ≤ 122 := by
        have hrange : (decide (c.val ≥ 'a'.val) && decide (c.val ≤ 'z'.val)) = true := h
        exact of_decide_eq_true (Bool.and_eq_true_iff.1 hrange).2
      exact Nat.lt_of_le_of_lt hle (by decide)
    · exact Nat.lt_of_le_of_lt h.2 (by decide)
    · subst h
      decide
  have hall : ∀ n : Fin 128, isIdChar (Char.ofNat n) = true → (Char.ofNat n).toLower = Char.ofNat n ∧
      isLineEnd (Char.ofNat n) = false ∧ Char.ofNat n ≠ ':' ∧ Char.ofNat n ≠ '[' ∧ Char.ofNat n ≠ '@' ∧
        ['/', '?', '#', '\\'].contains (Char.ofNat n) = false := by
    decide
  have hc := hall ⟨c.toNat, hascii⟩
  rw [Char.ofNat_toNat] at hc
  obtain ⟨hlower, hrest⟩ := hc h
  exact ⟨⟨hascii, hlower⟩, hrest⟩

theorem lower_plain : ∀ {cs : List Char}, (∀ c ∈ cs, isIdChar c = true) → l.lower cs = cs
  | [], _ => rfl
  | c :: cs, h => by
    obtain ⟨hc, hcs⟩ := List.forall_mem_cons.1 h
    obtain ⟨⟨hascii, hlower⟩, -⟩ := isIdChar_spec hc
    rw [Lower.lower, List.flatMap_cons, Lower.char, if_pos hascii, hlower]
    exact congrArg (c :: ·) (lower_plain hcs)

theorem isDigit_toDigits {n : Nat} : ∀ c ∈ Nat.toDigits 10 n, isDigit c = true := by
  intro c hc
  have hdigit := Nat.isDigit_of_mem_toDigits (by decide) (by decide) hc
  simp only [Char.isDigit, Bool.and_eq_true, decide_eq_true_eq] at hdigit
  unfold isDigit
  rw [Bool.and_eq_true, decide_eq_true_eq, decide_eq_true_eq]
  exact hdigit

theorem sessionHost_chars {sessionId : List Char} (h : IsSessionId sessionId) (port : Nat) :
    ∀ c ∈ sessionHost sessionId port, isIdChar c = true := by
  intro c hc
  rcases List.mem_append.1 hc with hc | hc
  · exact h.2 c hc
  · rcases List.mem_cons.1 hc with rfl | hc
    · decide
    · unfold isIdChar
      rw [isDigit_toDigits c hc]
      simp

/-- The port is taken off where it was put on, whatever the session id ends with. -/
theorem matchPort_sessionHost {sessionId : List Char} (h : IsSessionId sessionId) {port : Nat} (hport : port ≤ 65535) :
    matchPort (sessionHost sessionId port) = some (sessionId, port) := by
  have hdigits : ∀ c ∈ (Nat.toDigits 10 port).reverse, isDigit c = true := by
    intro c hc
    exact isDigit_toDigits c (List.mem_reverse.1 hc)
  have hreverse :
      (sessionHost sessionId port).reverse = (Nat.toDigits 10 port).reverse ++ '-' :: sessionId.reverse := by
    simp [sessionHost]
  have htake : (sessionHost sessionId port).reverse.takeWhile isDigit = (Nat.toDigits 10 port).reverse := by
    rw [hreverse, List.takeWhile_append_of_pos hdigits, List.takeWhile_cons_of_neg (by decide), List.append_nil]
  have hdrop : (sessionHost sessionId port).reverse.dropWhile isDigit = '-' :: sessionId.reverse := by
    rw [hreverse, List.dropWhile_append_of_pos hdigits, List.dropWhile_cons_of_neg (by decide)]
  have hwidth : 1 ≤ (Nat.toDigits 10 port).length ∧ (Nat.toDigits 10 port).length ≤ 5 :=
    ⟨Nat.length_toDigits_pos, (width_le_iff (n := port) (by decide)).2 (by omega)⟩
  have hlines : sessionId.reverse.all (fun c => !isLineEnd c) = true := by
    rw [List.all_eq_true]
    intro c hc
    rw [(isIdChar_spec (h.2 c (List.mem_reverse.1 hc))).2.1]
    rfl
  unfold matchPort
  rw [htake, hdrop]
  simp only [List.reverse_reverse]
  rw [if_pos ⟨by simpa using h.1, hlines, hwidth⟩, Nat.ofDigitChars_ten_toDigits]

theorem dropSuffix_append (xs suffix : List Char) : dropSuffix suffix (xs ++ suffix) = some xs := by
  unfold dropSuffix
  rw [if_pos (by simp [List.isSuffixOf_iff_suffix])]
  simp

/-- What a hostname of a session under the configured domain denotes. -/
theorem denotes_domain {domain : List Char} (hdomain : configuredDomain env = some domain) {sessionId : List Char}
    (h : IsSessionId sessionId) {port : Nat} (hport : 1 ≤ port ∧ port ≤ 65535) :
    denotes l env (l.lower (sessionHost sessionId port ++ '.' :: domain)) = some (sessionId, port) := by
  have hlower : l.lower (sessionHost sessionId port ++ '.' :: domain) =
      sessionHost sessionId port ++ '.' :: l.lower domain := by
    rw [lower_append, lower_plain (sessionHost_chars h port)]
    rfl
  unfold denotes subdomainOf
  rw [previewDomain_eq, hdomain, hlower, Option.map_some, Option.bind_some, dropSuffix_append, Option.some_or,
    Option.bind_some, matchPort_sessionHost h hport.2]
  simp [hport]

/-- And under `localhost`. -/
theorem denotes_localhost (hdomain : configuredDomain env = none) (hdev : env.production = false)
    {sessionId : List Char}
    (h : IsSessionId sessionId) {port : Nat} (hport : 1 ≤ port ∧ port ≤ 65535) :
    denotes l env (l.lower (sessionHost sessionId port ++ ".localhost".toList)) = some (sessionId, port) := by
  have hlower : l.lower (sessionHost sessionId port ++ ".localhost".toList) =
      sessionHost sessionId port ++ ".localhost".toList := by
    rw [lower_append, lower_plain (sessionHost_chars h port)]
    rfl
  unfold denotes subdomainOf
  rw [previewDomain_eq, hdomain, hlower, hdev, Option.map_none, Option.bind_none, Option.none_or, dropSuffix_append]
  simp [matchPort_sessionHost h hport.2, hport]

/-! ## From the header to the hostname -/

/-- A colon inside a bracket that begins the host. -/
def ColonInBracket (host : List Char) : Prop :=
  host.head? = some '[' ∧ ']' ∈ host ∧ ':' ∈ host.takeWhile (· ≠ ']')

theorem splitOn_headD : ∀ host : List Char, (host.splitOn ':').headD [] = host.takeWhile (· ≠ ':')
  | [] => rfl
  | c :: host => by
    have ih := splitOn_headD host
    unfold List.splitOn at ih ⊢
    rw [List.splitOnP_cons_eq_if_modifyHead]
    by_cases hc : c = ':'
    · simp [hc]
    · obtain ⟨part, parts, hparts⟩ := List.exists_cons_of_ne_nil (List.splitOnP_ne_nil (· == ':') host)
      rw [hparts, List.headD_cons] at ih
      rw [if_neg (by simpa using hc), hparts, List.takeWhile_cons_of_pos (by simpa using hc), ← ih]
      rfl

/-- The two take the same hostname off, but where a bracket that begins the host has a colon in it. -/
theorem reqHostname_eq {host : List Char} (hne : host ≠ []) (h : ¬ ColonInBracket host) :
    reqHostname host = some (host.takeWhile (· ≠ ':')) := by
  unfold reqHostname
  rw [if_neg hne]
  by_cases hbracket : host.head? = some '[' ∧ ']' ∈ host
  · obtain ⟨hhead, hend⟩ := hbracket
    obtain ⟨inner, rest, hhost, hinner⟩ :
        ∃ inner rest, host = inner ++ ']' :: rest ∧ ∀ c ∈ inner, c ≠ ']' ∧ c ≠ ':' := by
      obtain ⟨inner, rest, hhost, hfirst⟩ := List.eq_append_cons_of_mem hend
      have hne : ∀ c ∈ inner, decide (c ≠ ']') = true := by
        intro c hc
        rw [decide_eq_true_eq]
        rintro rfl
        exact hfirst hc
      have hinner : host.takeWhile (· ≠ ']') = inner := by
        rw [hhost, List.takeWhile_append_of_pos hne, List.takeWhile_cons_of_neg (by decide), List.append_nil]
      refine ⟨inner, rest, hhost, fun c hc => ⟨of_decide_eq_true (hne c hc), ?_⟩⟩
      rintro rfl
      exact h ⟨hhead, hend, hinner ▸ hc⟩
    have hindex : host.findIdx? (· = ']') = some inner.length := by
      rw [hhost, List.findIdx?_append, List.findIdx?_eq_none_iff.2 fun c hc => by simpa using (hinner c hc).1]
      simp [List.findIdx?_cons]
    have htake : host.take (inner.length + 1) = inner ++ [']'] := by
      rw [hhost, List.take_append, List.take_of_length_le (by omega)]
      simp
    have hdrop : host.drop (inner.length + 1) = rest := by
      rw [hhost]
      simp
    have hplain : ∀ c ∈ inner ++ [']'], decide (c ≠ ':') = true := by
      intro c hc
      rcases List.mem_append.1 hc with hc | hc
      · simpa using (hinner c hc).2
      · rw [List.mem_singleton.1 hc]
        decide
    rw [if_pos hhead, hindex]
    simp only [Option.map_some, Option.getD_some]
    rw [htake, hdrop, ← List.takeWhile_append_of_pos hplain, List.append_assoc, List.singleton_append, ← hhost]
  · have hzero : (if host.head? = some '[' then ((host.findIdx? (· = ']')).map (· + 1)).getD 0 else 0) = 0 := by
      split
      · rename_i hhead
        have hnone : host.findIdx? (· = ']') = none := by
          rw [List.findIdx?_eq_none_iff]
          intro c hc
          rw [decide_eq_false_iff_not]
          rintro rfl
          exact hbracket ⟨hhead, hc⟩
        rw [hnone]
        rfl
      · rfl
    simp only [hzero, List.take_zero, List.drop_zero, List.nil_append]

/-! ## The host of the URL -/

/-- Nothing that ends a host in a URL, or a port. -/
def PlainHost (host : List Char) : Prop := ∀ c ∈ host, "/?#\\:@".toList.contains c = false

theorem PlainHost.spec {host : List Char} (h : PlainHost host) {c : Char} (hc : c ∈ host) :
    "/?#\\".toList.contains c = false ∧ c ≠ ':' ∧ c ≠ '@' := by
  have hnone := h c hc
  rw [← Bool.not_eq_true, List.contains_iff_mem] at hnone ⊢
  simp at hnone ⊢
  tauto

theorem plainHost_of_all {host : List Char} (h : (host.all fun c => !"/?#\\:@".toList.contains c) = true) :
    PlainHost host := by
  intro c hc
  have hnone := List.all_eq_true.1 h c hc
  rwa [Bool.not_eq_true'] at hnone

theorem localhost_plain : PlainHost ".localhost".toList := plainHost_of_all (by decide)

theorem hostPart_eq {scheme host : List Char} (hscheme : (scheme.all fun c => c ≠ '/') = true)
    (hhost : ∀ c ∈ host, "/?#\\".toList.contains c = false ∧ c ≠ '@') :
    hostPart (scheme ++ '/' :: '/' :: (host ++ ['/'])) = host := by
  have hauthority : ((scheme ++ '/' :: '/' :: (host ++ ['/'])).dropWhile (· ≠ '/')).drop 2 = host ++ ['/'] := by
    rw [List.dropWhile_append_of_pos (List.all_eq_true.1 hscheme), List.dropWhile_cons_of_neg (by decide)]
    rfl
  have htake : (host ++ ['/']).takeWhile (fun c => !"/?#\\".toList.contains c) = host := by
    rw [List.takeWhile_append_of_pos fun c hc => by rw [(hhost c hc).1]; rfl, List.takeWhile_cons_of_neg (by decide),
      List.append_nil]
  have huser : host.reverse.takeWhile (· ≠ '@') = host.reverse := by
    rw [List.takeWhile_eq_self_iff]
    intro c hc
    exact decide_eq_true (hhost c (List.mem_reverse.1 hc)).2
  unfold hostPart
  rw [hauthority, htake]
  show (host.reverse.takeWhile (· ≠ '@')).reverse = host
  rw [huser, List.reverse_reverse]

/-- The URL's host is the session's host under the domain or under `localhost`, with a port or none. -/
theorem previewHost_spec {url : UrlClass} {sessionId : List Char} (h : IsSessionId sessionId) {port : Nat}
    (hdomain : ∀ domain ∈ configuredDomain env, PlainHost domain)
    (hbase : ∀ base ∈ configuredBase env, url.http base = true ∧ ¬ "xn--".toList <+: sessionHost sessionId port)
    {host : List Char} (hhost : previewHost url env sessionId port = some host) :
    (∃ domain, configuredDomain env = some domain ∧ host = sessionHost sessionId port ++ '.' :: domain) ∨
      (configuredDomain env = none ∧ ∃ rest, host = sessionHost sessionId port ++ ".localhost".toList ++ rest ∧
        (rest = [] ∨ rest.head? = some ':')) := by
  have hname := sessionHost_chars h port
  have hplain : ∀ c ∈ sessionHost sessionId port, "/?#\\".toList.contains c = false ∧ c ≠ '@' := by
    intro c hc
    obtain ⟨-, -, -, -, hat, hdelimiter⟩ := isIdChar_spec (hname c hc)
    exact ⟨hdelimiter, hat⟩
  unfold previewHost at hhost
  split at hhost
  · rename_i domain hconfigured
    refine .inl ⟨domain, hconfigured, ?_⟩
    rw [← Option.some.inj hhost]
    have hurl : "https://".toList ++ sessionHost sessionId port ++ '.' :: domain ++ ['/'] =
        "https:".toList ++ '/' :: '/' :: ((sessionHost sessionId port ++ '.' :: domain) ++ ['/']) := by
      simp
    rw [hurl]
    refine hostPart_eq (by decide) fun c hc => ?_
    rcases List.mem_append.1 hc with hc | hc
    · exact hplain c hc
    · rcases List.mem_cons.1 hc with rfl | hc
      · decide
      · obtain ⟨hdelimiter, -, hat⟩ := (hdomain domain hconfigured).spec hc
        exact ⟨hdelimiter, hat⟩
  · rename_i hconfigured
    refine .inr ⟨hconfigured, ?_⟩
    split at hhost
    · rename_i base hb
      obtain ⟨hhttp, hpuny⟩ := hbase base hb
      refine url.set_host hhttp (fun c hc => ?_) hpuny hhost
      have hchar := hname c hc
      unfold isIdChar at hchar
      simp only [Bool.or_eq_true, decide_eq_true_eq] at hchar
      tauto
    · refine ⟨':' :: Nat.toDigits 10 (env.port.getD 3000), ?_, .inr rfl⟩
      rw [← Option.some.inj hhost]
      have hurl : "http://".toList ++ sessionHost sessionId port ++ ".localhost:".toList ++
            Nat.toDigits 10 (env.port.getD 3000) ++ ['/'] =
          "http:".toList ++ '/' :: '/' :: ((sessionHost sessionId port ++ ".localhost".toList ++
            ':' :: Nat.toDigits 10 (env.port.getD 3000)) ++ ['/']) := by
        simp
      rw [hurl]
      refine hostPart_eq (by decide) fun c hc => ?_
      rcases List.mem_append.1 hc with hc | hc
      · rcases List.mem_append.1 hc with hc | hc
        · exact hplain c hc
        · have hlocal := localhost_plain.spec hc
          exact ⟨hlocal.1, hlocal.2.2⟩
      · rcases List.mem_cons.1 hc with rfl | hc
        · decide
        · have hdigit : isIdChar c = true := by
            unfold isIdChar
            rw [isDigit_toDigits c hc]
            simp
          obtain ⟨-, -, -, -, hat, hdelimiter⟩ := isIdChar_spec hdigit
          exact ⟨hdelimiter, hat⟩

/-! ## Made and read -/

theorem acceptUpgrade_eq (host : List Char) :
    acceptUpgrade l env (some host) = denotes l env (l.lower (host.takeWhile (· ≠ ':'))) := by
  unfold acceptUpgrade
  rw [Option.getD_some, splitOn_headD]

theorem middleware_eq {host : List Char} (hne : host ≠ []) (h : ¬ ColonInBracket host) :
    middleware l env host = .ok (acceptUpgrade l env (some host)) := by
  unfold middleware
  rw [reqHostname_eq hne h, acceptUpgrade_eq]

/-- A session's host begins with its id, so with no bracket. -/
theorem sessionHost_no_bracket {sessionId : List Char} (h : IsSessionId sessionId) (port : Nat) (rest : List Char) :
    sessionHost sessionId port ++ rest ≠ [] ∧ ¬ ColonInBracket (sessionHost sessionId port ++ rest) := by
  obtain ⟨c, cs, rfl⟩ := List.exists_cons_of_ne_nil h.1
  constructor
  · simp [sessionHost]
  · rintro ⟨hhead, -⟩
    obtain ⟨-, -, -, hbracket, -⟩ := isIdChar_spec (h.2 c List.mem_cons_self)
    exact hbracket (Option.some.inj hhead)

theorem subdomainOf_subset {hostname subdomain : List Char} (h : subdomainOf l env hostname = some subdomain) :
    subdomain ⊆ hostname := by
  have hdrop : ∀ {suffix : List Char}, dropSuffix suffix hostname = some subdomain → subdomain ⊆ hostname := by
    intro suffix hsuffix
    unfold dropSuffix at hsuffix
    split at hsuffix
    · cases hsuffix
      exact List.take_subset _ _
    · cases hsuffix
  unfold subdomainOf at h
  rcases Option.or_eq_some_iff.1 h with h | ⟨-, h⟩
  · obtain ⟨domain, -, h⟩ := Option.bind_eq_some_iff.1 h
    exact hdrop h
  · split at h
    · cases h
    · exact hdrop h

theorem dash_of_matchPort {cs : List Char} {r : List Char × Nat} (h : matchPort cs = some r) : '-' ∈ cs := by
  unfold matchPort at h
  split at h
  · rename_i name hname
    have hmem : '-' ∈ cs.reverse.dropWhile isDigit := by
      rw [hname]
      exact List.mem_cons_self
    exact List.mem_reverse.1 (List.dropWhile_subset _ hmem)
  · cases h

/-- A digit of an IPv6 address, or what stands between them. -/
def isAddressChar (c : Char) : Bool := "0123456789abcdefABCDEF:.".toList.contains c

/-- An address in brackets denotes no session: it has no dash. -/
theorem denotes_address {cs : List Char} (h : ∀ c ∈ cs, isAddressChar c = true ∨ c = '[' ∨ c = ']') :
    denotes l env (l.lower cs) = none := by
  have hdash : '-' ∉ l.lower cs := by
    unfold Lower.lower
    rw [List.mem_flatMap]
    rintro ⟨c, hc, hdash⟩
    have hall : (('[' :: ']' :: "0123456789abcdefABCDEF:.".toList).all fun c =>
        decide (c.toNat < 128) && decide (c.toLower ≠ '-')) = true := by decide
    have hmem : c ∈ '[' :: ']' :: "0123456789abcdefABCDEF:.".toList := by
      rcases h c hc with hc | rfl | rfl
      · exact List.mem_cons_of_mem _ (List.mem_cons_of_mem _ (List.contains_iff_mem.1 hc))
      · exact List.mem_cons_self
      · exact List.mem_cons_of_mem _ List.mem_cons_self
    have hspec := List.all_eq_true.1 hall c hmem
    rw [Bool.and_eq_true, decide_eq_true_iff, decide_eq_true_iff] at hspec
    obtain ⟨hascii, hne⟩ := hspec
    rw [Lower.char, if_pos hascii, List.mem_singleton] at hdash
    exact hne hdash.symm
  unfold denotes
  cases hsub : subdomainOf l env (l.lower cs) with
  | none => rfl
  | some subdomain =>
    have hnone : matchPort subdomain = none := by
      cases hmatch : matchPort subdomain with
      | none => rfl
      | some r => exact absurd (subdomainOf_subset hsub (dash_of_matchPort hmatch)) hdash
    rw [Option.bind_some, hnone]
    rfl

/-- What is before the first colon of a text that goes on, if it does, with a colon. -/
theorem takeWhile_colon_subset {rest : List Char} (hrest : rest = [] ∨ rest.head? = some ':') :
    ∀ cs : List Char, (cs ++ rest).takeWhile (· ≠ ':') ⊆ cs
  | [] => by
    rcases hrest with rfl | hhead
    · simp
    · obtain ⟨rest', rfl⟩ := List.head?_eq_some_iff.1 hhead
      rw [List.nil_append, List.takeWhile_cons_of_neg (by decide)]
      exact List.Subset.refl _
  | c :: cs => by
    by_cases hc : c = ':'
    · rw [List.cons_append, List.takeWhile_cons_of_neg (by simpa using hc)]
      exact List.nil_subset _
    · rw [List.cons_append, List.takeWhile_cons_of_pos (by simpa using hc)]
      exact List.cons_subset_cons c (takeWhile_colon_subset hrest cs)

/-- The hostname of an address in brackets, with a port or without. -/
theorem reqHostname_address {inner rest : List Char} (hinner : ']' ∉ inner)
    (hrest : rest = [] ∨ rest.head? = some ':') :
    reqHostname ('[' :: inner ++ ']' :: rest) = some ('[' :: inner ++ [']']) := by
  have hindex : ('[' :: inner ++ ']' :: rest).findIdx? (· = ']') = some (inner.length + 1) := by
    rw [List.findIdx?_append, List.findIdx?_eq_none_iff.2]
    · simp [List.findIdx?_cons]
    · intro c hc
      rw [decide_eq_false_iff_not]
      rintro rfl
      rcases List.mem_cons.1 hc with hc | hc
      · cases hc
      · exact hinner hc
  have hport : rest.takeWhile (· ≠ ':') = [] := by
    rcases hrest with rfl | hhead
    · rfl
    · obtain ⟨rest', rfl⟩ := List.head?_eq_some_iff.1 hhead
      rw [List.takeWhile_cons_of_neg (by decide)]
  have hsplit : '[' :: inner ++ ']' :: rest = ('[' :: inner ++ [']']) ++ rest := by simp
  have hlength : inner.length + 1 + 1 = ('[' :: inner ++ [']']).length := by simp
  unfold reqHostname
  rw [if_neg (by simp), hindex]
  simp only [List.cons_append, List.head?_cons, if_true, Option.map_some, Option.getD_some]
  rw [← List.cons_append, hsplit, hlength, List.take_left, List.drop_left, hport, List.append_nil]
  rfl

/-- A host under the configured domain. -/
theorem domain_read {l : Lower} {sessionId domain : List Char} {port : Nat} (h : IsSessionId sessionId)
    (hport : 1 ≤ port ∧ port ≤ 65535) (hd : configuredDomain env = some domain) (hplain : PlainHost domain) :
    middleware l env (sessionHost sessionId port ++ '.' :: domain) = .ok (some (sessionId, port)) ∧
      acceptUpgrade l env (some (sessionHost sessionId port ++ '.' :: domain)) = some (sessionId, port) := by
  have hcolon : ∀ c ∈ sessionHost sessionId port ++ '.' :: domain, decide (c ≠ ':') = true := by
    intro c hc
    rw [decide_eq_true_eq]
    rcases List.mem_append.1 hc with hc | hc
    · exact (isIdChar_spec (sessionHost_chars h port c hc)).2.2.1
    · rcases List.mem_cons.1 hc with rfl | hc
      · decide
      · exact (hplain.spec hc).2.1
  obtain ⟨hne, hbracket⟩ := sessionHost_no_bracket h port ('.' :: domain)
  have hread : acceptUpgrade l env (some (sessionHost sessionId port ++ '.' :: domain)) = some (sessionId, port) := by
    rw [acceptUpgrade_eq, List.takeWhile_eq_self_iff.2 hcolon, denotes_domain hd h hport]
  rw [middleware_eq hne hbracket, hread]
  exact ⟨rfl, rfl⟩

/-- A host under `localhost`, with a port or without. -/
theorem localhost_read {l : Lower} {sessionId rest : List Char} {port : Nat} (h : IsSessionId sessionId)
    (hport : 1 ≤ port ∧ port ≤ 65535) (hnone : configuredDomain env = none) (hdev : env.production = false)
    (hrest : rest = [] ∨ rest.head? = some ':') :
    middleware l env (sessionHost sessionId port ++ ".localhost".toList ++ rest) = .ok (some (sessionId, port)) ∧
      acceptUpgrade l env (some (sessionHost sessionId port ++ ".localhost".toList ++ rest)) =
        some (sessionId, port) := by
  have hcolon : ∀ c ∈ sessionHost sessionId port ++ ".localhost".toList, decide (c ≠ ':') = true := by
    intro c hc
    rw [decide_eq_true_eq]
    rcases List.mem_append.1 hc with hc | hc
    · exact (isIdChar_spec (sessionHost_chars h port c hc)).2.2.1
    · exact (localhost_plain.spec hc).2.1
  have htake : (sessionHost sessionId port ++ ".localhost".toList ++ rest).takeWhile (· ≠ ':') =
      sessionHost sessionId port ++ ".localhost".toList := by
    rw [List.takeWhile_append_of_pos hcolon]
    cases rest with
    | nil => simp
    | cons c rest =>
      have hc : c = ':' := by simpa using hrest
      rw [hc, List.takeWhile_cons_of_neg (by decide), List.append_nil]
  obtain ⟨hne, hbracket⟩ := sessionHost_no_bracket h port (".localhost".toList ++ rest)
  rw [← List.append_assoc] at hne hbracket
  have hread : acceptUpgrade l env (some (sessionHost sessionId port ++ ".localhost".toList ++ rest)) =
      some (sessionId, port) := by
    rw [acceptUpgrade_eq, htake, denotes_localhost hnone hdev h hport]
  rw [middleware_eq hne hbracket, hread]
  exact ⟨rfl, rfl⟩

/-- An address in brackets is nobody's preview. -/
theorem address_read {l : Lower} {inner rest : List Char} (hinner : ∀ c ∈ inner, isAddressChar c = true)
    (hrest : rest = [] ∨ rest.head? = some ':') :
    middleware l env ('[' :: inner ++ ']' :: rest) = .ok none ∧
      acceptUpgrade l env (some ('[' :: inner ++ ']' :: rest)) = none := by
  have hend : ']' ∉ inner := by
    intro hc
    have hnone := hinner _ hc
    revert hnone
    decide
  have hchars : ∀ c ∈ '[' :: inner ++ [']'], isAddressChar c = true ∨ c = '[' ∨ c = ']' := by
    intro c hc
    rcases List.mem_append.1 hc with hc | hc
    · rcases List.mem_cons.1 hc with rfl | hc
      · exact .inr (.inl rfl)
      · exact .inl (hinner c hc)
    · exact .inr (.inr (List.mem_singleton.1 hc))
  have hsplit : '[' :: inner ++ ']' :: rest = ('[' :: inner ++ [']']) ++ rest := by simp
  constructor
  · unfold middleware
    rw [reqHostname_address hend hrest]
    exact congrArg Except.ok (denotes_address hchars)
  · rw [acceptUpgrade_eq, hsplit]
    exact denotes_address fun c hc => hchars c (takeWhile_colon_subset hrest _ hc)

/-- What is made of a session and a port is read as these by both; on any other host the two agree. -/
theorem preview_hosts (l : Lower) (url : UrlClass) (env : Env) :
    (∀ sessionId port host, IsSessionId sessionId → 1 ≤ port ∧ port ≤ 65535 →
      (configuredDomain env).isSome = true ∨ env.production = false →
      (∀ domain ∈ configuredDomain env, PlainHost domain) →
      (∀ base ∈ configuredBase env, url.http base = true ∧ ¬ "xn--".toList <+: sessionHost sessionId port) →
      previewHost url env sessionId port = some host →
      middleware l env host = .ok (some (sessionId, port)) ∧ acceptUpgrade l env (some host) = some (sessionId, port)) ∧
    (∀ host, host ≠ [] → ¬ ColonInBracket host →
      middleware l env host = .ok (acceptUpgrade l env (some host))) ∧
    (∀ inner rest, (∀ c ∈ inner, isAddressChar c = true) → rest = [] ∨ rest.head? = some ':' →
      middleware l env ('[' :: inner ++ ']' :: rest) = .ok none ∧
        acceptUpgrade l env (some ('[' :: inner ++ ']' :: rest)) = none) := by
  refine ⟨?_, fun host hne h => middleware_eq hne h, fun inner rest hinner hrest => address_read hinner hrest⟩
  intro sessionId port host h hport hsome hdomain hbase hhost
  rcases previewHost_spec h hdomain hbase hhost with ⟨domain, hd, rfl⟩ | ⟨hnone, rest, rfl, hrest⟩
  · exact domain_read h hport hd (hdomain domain hd)
  · have hdev : env.production = false := by
      rcases hsome with hsome | hdev
      · rw [hnone] at hsome
        cases hsome
      · exact hdev
    exact localhost_read h hport hnone hdev hrest

namespace Example

def lower : Lower := ⟨fun c => [c], fun c hc => by
  refine ⟨List.cons_ne_nil _ _, fun h => hc ?_⟩
  rw [← List.mem_singleton.1 h]
  decide⟩

/-- `URL` puts the hostname in the place of the base's, before a port. -/
def url : UrlClass where
  setHostname base name := some (name ++ ((base.drop 7).dropWhile (· ≠ ':')))
  http base := "http://".toList.isPrefixOf base
  set_host := by
    intro base name host _ _ _ hhost
    refine ⟨(base.drop 7).dropWhile (· ≠ ':'), (Option.some.inj hhost).symm, ?_⟩
    cases hport : (base.drop 7).dropWhile (· ≠ ':') with
    | nil => exact .inl rfl
    | cons c rest =>
      have hhead := List.head?_dropWhile_not (fun c : Char => decide (c ≠ ':')) (base.drop 7)
      rw [hport] at hhead
      refine .inr (congrArg some ?_)
      simpa using hhead

def live : Env := ⟨some " .Preview.Livetich.COM. ".toList, none, none, true⟩

def dev : Env := ⟨none, some "http://localhost:3001".toList, none, false⟩

end Example

open Example in
theorem hosts_read :
    acceptUpgrade lower live (some "monday-2-3000.Preview.Livetich.COM".toList) = some ("monday-2".toList, 3000) ∧
      acceptUpgrade lower dev (some "monday-2-80.localhost:3001".toList) = some ("monday-2".toList, 80) := by
  obtain ⟨hmade, -⟩ := preview_hosts lower url live
  obtain ⟨hmadeDev, -⟩ := preview_hosts lower url dev
  refine ⟨(hmade "monday-2".toList 3000 _ (by decide) (by decide) (by decide) ?_ ?_ (by decide)).2,
    (hmadeDev "monday-2".toList 80 _ (by decide) (by decide) (.inr rfl) ?_ ?_ (by decide)).2⟩
  · intro domain hdomain
    have hconfigured : configuredDomain live = some "Preview.Livetich.COM".toList := by decide
    rw [hconfigured, Option.mem_some_iff] at hdomain
    subst hdomain
    exact plainHost_of_all (by decide)
  · intro base hbase
    cases hbase
  · intro domain hdomain
    cases hdomain
  · intro base hbase
    have hconfigured : configuredBase dev = some "http://localhost:3001".toList := by decide
    rw [hconfigured, Option.mem_some_iff] at hbase
    subst hbase
    decide

namespace Example

/-- A domain with a port, which no hostname ends with. -/
def withPort : Env := ⟨some "preview.test:8443".toList, none, none, true⟩

end Example

open Example in
theorem hosts_read_otherwise :
    (middleware lower dev "[:]-80.localhost".toList = .ok (some ("[:]".toList, 80)) ∧
      acceptUpgrade lower dev (some "[:]-80.localhost".toList) = none) ∧
    (previewHost url withPort "monday".toList 80 = some "monday-80.preview.test:8443".toList ∧
      middleware lower withPort "monday-80.preview.test:8443".toList = .ok none) := by
  decide

end Livetich.Tunnel.Preview
