/-
Installation tokens: `GitHubAppService.installationToken` and `forget`, and `GitHubApiService.request`, which sends
every request to GitHub. Any number of calls run at a time; a call waits for GitHub to mint a token and for the answer
to its request. No token crosses from one installation to another, and a token that GitHub has refused is given to no
call again.
-/
import Livetich.Lib.TransSys

namespace Livetich.Workspace.Tokens

open TransSys

abbrev InstallationId := String
abbrev Token := String

/-! ## The cache -/

/-- Milliseconds, as are all times here. -/
def tokenRefreshMarginMs : Int := 60000

structure CachedToken where
  token : Token
  /-- `none` for the date that is not a number. -/
  expiresAt : Option Int
  deriving DecidableEq

/-- A cached token is handed out while it has more than the margin left. -/
def CachedToken.fresh (cached : CachedToken) (now : Int) : Bool :=
  cached.expiresAt.any fun expiresAt => decide (expiresAt - tokenRefreshMarginMs > now)

/-- The body of an answer that mints a token. -/
structure Minted where
  token : Option Token
  expires_at : Option String
  deriving DecidableEq

/-- A field that is missing or empty is no field. -/
def given (field : Option String) : Option String := field.filter (· ≠ "")

/-- `Date.parse`, and an hour less five minutes where GitHub names no end. -/
def expiryOf (parse : String → Option Int) (now : Int) (expires_at : Option String) : Option Int :=
  match given expires_at with
  | some date => parse date
  | none => some (now + 55 * 60000)

/-! ## Calls -/

inductive Task
  /-- The call waits for GitHub to mint a token. -/
  | minting (installationId : InstallationId)
  /-- It has been handed a token. -/
  | holding (installationId : InstallationId) (token : Token)
  /-- Its request is sent with the token. -/
  | sent (installationId : InstallationId) (token : Token)
  deriving DecidableEq

/-- What `installationToken` returned and when; and the entry, where it came out of the cache. -/
structure Handed where
  installationId : InstallationId
  token : Token
  time : Int
  cached : Option CachedToken
  deriving DecidableEq

/-- A request on its way to GitHub. -/
structure Sent where
  installationId : InstallationId
  token : Token
  deriving DecidableEq

structure State where
  tokens : InstallationId → Option CachedToken
  calls : Pool Task
  nextCall : Nat
  now : Int
  /-- GitHub's own record: whose token each one is. -/
  minted : List (Token × InstallationId)
  /-- The tokens that GitHub has refused. -/
  refused : List Token
  /-- What calls were handed and what they sent, latest first; no call reads these. -/
  handed : List Handed
  requests : List Sent

def init : State where
  tokens _ := none
  calls := Pool.empty
  nextCall := 0
  now := 0
  minted := []
  refused := []
  handed := []
  requests := []

inductive Event
  /-- `request`, up to the first answer it waits for. -/
  | request (installationId : InstallationId)
  /-- GitHub answers call `i` with a token of its installation that it never minted before. -/
  | minted (i : Nat) (body : Minted)
  /-- GitHub answers call `i` that it mints no token. -/
  | notMinted (i : Nat)
  /-- Call `i` sends its request. -/
  | send (i : Nat)
  /-- The request of call `i` is answered. -/
  | answer (i : Nat) (status : Nat)
  /-- No answer comes, or one that cannot be read: the call fails. -/
  | lost (i : Nat)
  /-- `forget`, as `disconnect` calls it. -/
  | forget (installationId : InstallationId)
  | tick (now : Int)
  deriving DecidableEq

def State.set (s : State) (installationId : InstallationId) (cached : Option CachedToken) : State :=
  { s with tokens := Function.update s.tokens installationId cached }

/-- Call `i` is handed a token. -/
def State.hand (s : State) (i : Nat) (installationId : InstallationId) (token : Token) (cached : Option CachedToken) :
    State :=
  { s with
    calls := s.calls.put i (some (.holding installationId token))
    handed := ⟨installationId, token, s.now, cached⟩ :: s.handed }

def State.finish (s : State) (i : Nat) : State := { s with calls := s.calls.put i none }

/-- The answer with a token is stored before the call goes on; one without a token fails the call. -/
def State.onMinted (parse : String → Option Int) (s : State) (i : Nat) (installationId : InstallationId)
    (body : Minted) : Option State :=
  match given body.token with
  | none => some (s.finish i)
  | some token =>
    if (s.minted.map (·.1)).contains token then none
    else
      let cached := ⟨token, expiryOf parse s.now body.expires_at⟩
      let s := { s with minted := (token, installationId) :: s.minted }
      some ((s.set installationId (some cached)).hand i installationId token none)

def step (parse : String → Option Int) (s : State) : Event → Option State
  | .request installationId =>
    let i := s.nextCall
    let s := { s with nextCall := s.nextCall + 1 }
    match s.tokens installationId with
    | some cached =>
      if cached.fresh s.now then some (s.hand i installationId cached.token (some cached))
      else some { s with calls := s.calls.put i (some (.minting installationId)) }
    | none => some { s with calls := s.calls.put i (some (.minting installationId)) }
  | .minted i body => match s.calls.get i with
    | some (.minting installationId) => s.onMinted parse i installationId body
    | _ => none
  | .notMinted i => match s.calls.get i with
    | some (.minting installationId) => some ((s.set installationId none).finish i)
    | _ => none
  | .send i => match s.calls.get i with
    | some (.holding installationId token) => some { s with
        calls := s.calls.put i (some (.sent installationId token))
        requests := ⟨installationId, token⟩ :: s.requests }
    | _ => none
  | .answer i status => match s.calls.get i with
    | some (.sent installationId token) =>
      if status = 401 then
        some (({ s with refused := token :: s.refused }.set installationId none).finish i)
      else some (s.finish i)
    | _ => none
  | .lost i => (s.calls.get i).map fun _ => s.finish i
  | .forget installationId => some (s.set installationId none)
  | .tick now => if s.now ≤ now then some { s with now } else none

/-! ## Whose the tokens are -/

/-- The token a call has, with its installation. -/
def Task.token : Task → Option (Token × InstallationId)
  | .minting _ => none
  | .holding installationId token => some (token, installationId)
  | .sent installationId token => some (token, installationId)

structure Inv (s : State) : Prop where
  cached : ∀ installationId cached, s.tokens installationId = some cached →
    (cached.token, installationId) ∈ s.minted ∧ cached.token ∉ s.refused
  calls : ∀ i t p, s.calls.get i = some t → t.token = some p → p ∈ s.minted
  refused : ∀ token ∈ s.refused, token ∈ s.minted.map (·.1)
  once : (s.minted.map (·.1)).Nodup
  handed : ∀ h ∈ s.handed, (h.token, h.installationId) ∈ s.minted ∧ ∀ c ∈ h.cached, c.fresh h.time = true
  requests : ∀ r ∈ s.requests, (r.token, r.installationId) ∈ s.minted

theorem inv_init : Inv init where
  cached _ _ h := (nomatch h)
  calls _ _ _ h := (nomatch h)
  refused _ h := (nomatch h)
  once := List.nodup_nil
  handed _ h := (nomatch h)
  requests _ h := (nomatch h)

section Kept

variable {parse : String → Option Int} {s s' t : State} {i : Nat} {installationId : InstallationId} {token : Token}

theorem set_cases {cached : Option CachedToken} {id : InstallationId} {c : CachedToken}
    (h : (s.set installationId cached).tokens id = some c) :
    (id = installationId ∧ cached = some c) ∨ (id ≠ installationId ∧ s.tokens id = some c) := by
  have hupdate : Function.update s.tokens installationId cached id = some c := h
  by_cases hid : id = installationId
  · subst hid
    rw [Function.update_self] at hupdate
    exact .inl ⟨rfl, hupdate⟩
  · rw [Function.update_of_ne hid] at hupdate
    exact .inr ⟨hid, hupdate⟩

/-- A token belongs to one installation. -/
theorem Inv.owner (h : Inv s) {id id' : InstallationId} (hid : (token, id) ∈ s.minted)
    (hid' : (token, id') ∈ s.minted) : id = id' :=
  congrArg Prod.snd (List.inj_on_of_nodup_map h.once hid hid' rfl)

theorem Inv.finish (h : Inv s) : Inv (s.finish i) where
  cached := h.cached
  calls j t p hj hp := by
    rcases Pool.get_put_cases hj with ⟨-, hnone⟩ | ⟨-, hj⟩
    · cases hnone
    · exact h.calls j t p hj hp
  refused := h.refused
  once := h.once
  handed := h.handed
  requests := h.requests

theorem Inv.forget (h : Inv s) : Inv (s.set installationId none) where
  cached id c hc := by
    rcases set_cases hc with ⟨-, hnone⟩ | ⟨-, hc⟩
    · cases hnone
    · exact h.cached id c hc
  calls := h.calls
  refused := h.refused
  once := h.once
  handed := h.handed
  requests := h.requests

/-- A call is handed a token of its installation, out of the cache or as it was minted. -/
theorem Inv.hand (h : Inv s) {cached : Option CachedToken} (hminted : (token, installationId) ∈ s.minted)
    (hfresh : ∀ c ∈ cached, c.fresh s.now = true) : Inv (s.hand i installationId token cached) where
  cached := h.cached
  calls j t p hj hp := by
    rcases Pool.get_put_cases hj with ⟨-, ht⟩ | ⟨-, hj⟩
    · cases ht
      cases hp
      exact hminted
    · exact h.calls j t p hj hp
  refused := h.refused
  once := h.once
  handed x hx := by
    rcases List.mem_cons.1 hx with rfl | hx
    · exact ⟨hminted, hfresh⟩
    · exact h.handed x hx
  requests := h.requests

/-- GitHub mints a token it never minted before, and the cache takes it. -/
theorem Inv.mint (h : Inv s) {expiresAt : Option Int} (hnew : token ∉ s.minted.map (·.1)) :
    Inv ({ s with minted := (token, installationId) :: s.minted }.set installationId (some ⟨token, expiresAt⟩)) where
  cached id c hc := by
    rcases set_cases hc with ⟨rfl, heq⟩ | ⟨-, hc⟩
    · cases heq
      exact ⟨List.mem_cons_self, fun hrefused => hnew (h.refused token hrefused)⟩
    · exact ⟨List.mem_cons_of_mem _ (h.cached id c hc).1, (h.cached id c hc).2⟩
  calls j t p hj hp := List.mem_cons_of_mem _ (h.calls j t p hj hp)
  refused x hx := List.mem_cons_of_mem _ (h.refused x hx)
  once := List.nodup_cons.2 ⟨hnew, h.once⟩
  handed x hx := ⟨List.mem_cons_of_mem _ (h.handed x hx).1, (h.handed x hx).2⟩
  requests r hr := List.mem_cons_of_mem _ (h.requests r hr)

/-- GitHub refuses a token: what is cached for its installation is dropped, and for the others it was never cached. -/
theorem Inv.refuse (h : Inv s) (hminted : (token, installationId) ∈ s.minted) :
    Inv ({ s with refused := token :: s.refused }.set installationId none) where
  cached id c hc := by
    rcases set_cases hc with ⟨-, hnone⟩ | ⟨hid, hc⟩
    · cases hnone
    · obtain ⟨hown, hnot⟩ := h.cached id c hc
      refine ⟨hown, fun hrefused => ?_⟩
      rcases List.mem_cons.1 hrefused with heq | hrefused
      -- the refused token is of one installation, and that one's cache is empty now
      · exact hid (h.owner (heq ▸ hown) hminted)
      · exact hnot hrefused
  calls := h.calls
  refused x hx := by
    rcases List.mem_cons.1 hx with rfl | hx
    · exact List.mem_map.2 ⟨_, hminted, rfl⟩
    · exact h.refused x hx
  once := h.once
  handed := h.handed
  requests := h.requests

/-- From `s` to `t`, no call is handed a token that was refused by `s`. -/
structure HandsOnly (s t : State) : Prop where
  refused : s.refused ⊆ t.refused
  handed : ∃ new, t.handed = new ++ s.handed ∧ ∀ h ∈ new, h.token ∉ s.refused

theorem HandsOnly.trans {s t u : State} (h : HandsOnly s t) (h' : HandsOnly t u) : HandsOnly s u := by
  obtain ⟨new, hnew, hclean⟩ := h.handed
  obtain ⟨new', hnew', hclean'⟩ := h'.handed
  refine ⟨List.Subset.trans h.refused h'.refused, new' ++ new, by rw [hnew', hnew, List.append_assoc], fun x hx => ?_⟩
  rcases List.mem_append.1 hx with hx | hx
  · exact fun hrefused => hclean' x hx (h.refused hrefused)
  · exact hclean x hx

theorem HandsOnly.none (hrefused : s.refused ⊆ t.refused) (hhanded : t.handed = s.handed) : HandsOnly s t :=
  ⟨hrefused, [], hhanded, fun _ hx => (nomatch hx)⟩

theorem HandsOnly.refl (s : State) : HandsOnly s s := .none (List.Subset.refl _) rfl

theorem HandsOnly.one {h : Handed} (hrefused : t.refused = s.refused) (hhanded : t.handed = h :: s.handed)
    (hclean : h.token ∉ s.refused) : HandsOnly s t :=
  ⟨hrefused ▸ List.Subset.refl _, [h], hhanded, fun x hx => by
    rw [List.mem_singleton.1 hx]
    exact hclean⟩

theorem inv_step {e : Event} (h : Inv s) (hs : step parse s e = some s') : Inv s' ∧ HandsOnly s s' := by
  cases e with
  | request id =>
    have h' : Inv { s with nextCall := s.nextCall + 1 } := ⟨h.cached, h.calls, h.refused, h.once, h.handed, h.requests⟩
    have hwait : Inv { s with nextCall := s.nextCall + 1, calls := s.calls.put s.nextCall (some (.minting id)) } :=
      { h' with
        calls := fun j t p hj hp => by
          rcases Pool.get_put_cases hj with ⟨-, ht⟩ | ⟨-, hj⟩
          · cases ht
            cases hp
          · exact h.calls j t p hj hp }
    unfold step at hs
    dsimp only at hs
    cases hc : s.tokens id with
    | none =>
      rw [hc] at hs
      cases hs
      exact ⟨hwait, .none (List.Subset.refl _) rfl⟩
    | some c =>
      rw [hc] at hs
      dsimp only at hs
      split at hs
      · rename_i hfresh
        cases hs
        refine ⟨h'.hand (h.cached id c hc).1 fun c' hc' => ?_, .one rfl rfl (h.cached id c hc).2⟩
        cases hc'
        exact hfresh
      · cases hs
        exact ⟨hwait, .none (List.Subset.refl _) rfl⟩
  | minted i body =>
    unfold step at hs
    dsimp only at hs
    split at hs
    · rename_i id hi
      unfold State.onMinted at hs
      split at hs
      · cases hs
        exact ⟨h.finish, .none (List.Subset.refl _) rfl⟩
      · split at hs
        · cases hs
        · rename_i token _ hnew
          have hnew : token ∉ s.minted.map (·.1) := by simpa using hnew
          cases hs
          -- a token minted just now was never refused
          exact ⟨(h.mint hnew).hand List.mem_cons_self fun _ hc => (nomatch hc),
            .one rfl rfl fun hrefused => hnew (h.refused token hrefused)⟩
    · cases hs
  | notMinted i =>
    unfold step at hs
    dsimp only at hs
    split at hs
    · cases hs
      exact ⟨h.forget.finish, .none (List.Subset.refl _) rfl⟩
    · cases hs
  | send i =>
    unfold step at hs
    dsimp only at hs
    split at hs
    · rename_i id token hi
      cases hs
      have hminted := h.calls i _ _ hi rfl
      refine ⟨{ h with calls := fun j t p hj hp => ?_, requests := fun r hr => ?_ }, .none (List.Subset.refl _) rfl⟩
      · rcases Pool.get_put_cases hj with ⟨-, ht⟩ | ⟨-, hj⟩
        · cases ht
          cases hp
          exact hminted
        · exact h.calls j t p hj hp
      · rcases List.mem_cons.1 hr with rfl | hr
        · exact hminted
        · exact h.requests r hr
    · cases hs
  | answer i status =>
    unfold step at hs
    dsimp only at hs
    split at hs
    · rename_i id token hi
      split at hs
      · cases hs
        exact ⟨(h.refuse (h.calls i _ _ hi rfl)).finish, .none (List.subset_cons_self _ _) rfl⟩
      · cases hs
        exact ⟨h.finish, .none (List.Subset.refl _) rfl⟩
    · cases hs
  | lost i =>
    obtain ⟨t, -, rfl⟩ := Option.map_eq_some_iff.1 hs
    exact ⟨h.finish, .none (List.Subset.refl _) rfl⟩
  | forget id =>
    cases hs
    exact ⟨h.forget, .none (List.Subset.refl _) rfl⟩
  | tick now =>
    unfold step at hs
    dsimp only at hs
    split at hs
    · cases hs
      exact ⟨⟨h.cached, h.calls, h.refused, h.once, h.handed, h.requests⟩, .none (List.Subset.refl _) rfl⟩
    · cases hs

end Kept

/-- In every run: a request to GitHub carries a token of its own installation and of no other; a token out of the cache
has more than the margin left; and from the moment GitHub refuses a token, no call is handed it any more. -/
theorem tokens_kept (parse : String → Option Int) {es₁ es₂ : List Event} {s t : State}
    (h₁ : run (step parse) init es₁ = some s) (h₂ : run (step parse) s es₂ = some t) :
    (∀ r ∈ t.requests, ∀ id, (r.token, id) ∈ t.minted ↔ id = r.installationId) ∧
    (∀ h ∈ t.handed, ∀ c ∈ h.cached, c.fresh h.time = true) ∧
    ∃ new, t.handed = new ++ s.handed ∧ ∀ h ∈ new, h.token ∉ s.refused := by
  have hs : Inv s := run_keeps (fun _ _ _ hu hstep => (inv_step hu hstep).1) inv_init h₁
  have hstep : ∀ u e u', Inv u ∧ HandsOnly s u → step parse u e = some u' → Inv u' ∧ HandsOnly s u' :=
    fun u e u' hu hue => ⟨(inv_step hu.1 hue).1, hu.2.trans (inv_step hu.1 hue).2⟩
  obtain ⟨ht, hhands⟩ := run_keeps hstep ⟨hs, HandsOnly.refl s⟩ h₂
  refine ⟨fun r hr id => ⟨fun hid => ht.owner hid (ht.requests r hr), ?_⟩, fun h hh => (ht.handed h hh).2,
    hhands.handed⟩
  rintro rfl
  exact ht.requests r hr

namespace Example

def parse (date : String) : Option Int := if date = "1970-01-01T01:00:00Z" then some 3600000 else none

/-- Two calls for one school and one for another; GitHub refuses the token of the first school. -/
def refusal : List Event :=
  [.request "noor", .request "iqra", .minted 0 ⟨some "n1", some "1970-01-01T01:00:00Z"⟩, .minted 1 ⟨some "i1", none⟩,
    .send 0, .request "noor", .answer 0 401]

/-- The call that holds the token sends it all the same; the next mints another. -/
def afterwards : List Event := [.send 2, .answer 2 401, .request "noor", .minted 3 ⟨some "n2", none⟩, .send 3]

end Example

open Tokens.Example in
theorem refusal_kept : ∃ s t, run (step parse) init refusal = some s ∧ run (step parse) s afterwards = some t ∧
    s.refused = ["n1"] ∧ t.requests.map (·.token) = ["n2", "n1", "n1"] ∧
    ∃ new, t.handed = new ++ s.handed ∧ ∀ h ∈ new, h.token ∉ s.refused := by
  have hrun : ((run (step parse) init refusal).bind fun s => (run (step parse) s afterwards).map fun t =>
      (s.refused, t.requests.map (·.token))) = some (["n1"], ["n2", "n1", "n1"]) := by
    decide
  obtain ⟨s, t, hs, ht, hobs⟩ := observed hrun
  obtain ⟨hrefused, hrequests⟩ := Prod.mk.inj hobs
  exact ⟨s, t, hs, ht, hrefused, hrequests, (tokens_kept parse hs ht).2.2⟩

end Livetich.Workspace.Tokens
