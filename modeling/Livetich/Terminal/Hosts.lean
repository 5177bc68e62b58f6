/-
Whose a terminal is: the sockets of `/terminal` join, open terminals, publish, type and close in any order. Who opened
a terminal first, what was published and what was typed is noted beside the state of the gateway, which reads none of
it.
-/
import Livetich.Lib.Table
import Livetich.Lib.TransSys
import Livetich.Terminal.Gateway

namespace Livetich.Terminal.Hosts

open TransSys Livetich.Sockets
open Livetich.Lib (put₂ put₂_self put₂_of_ne put₂_eq put₂_map put₂_same)

/-! ## What is noted -/

/-- Output a host published. -/
structure Output where
  sender : SocketId
  sessionId : SessionId
  terminalId : TerminalId
  chunk : Units
  deriving DecidableEq

/-- A `term:stdin` relayed to the host of a terminal. -/
structure Input where
  sender : SocketId
  host : SocketId
  sandboxed : Option Bool
  sessionId : SessionId
  terminalId : TerminalId
  data : Units
  fromUserId : UserId
  deriving DecidableEq

/-- Who opened a terminal, and as what. -/
structure Opened where
  host : SocketId
  user : UserId
  sandboxed : Option Bool
  deriving DecidableEq

abbrev Openings := SessionId → TerminalId → Option Opened

def opened (x : ActiveTerminal) : Opened := ⟨x.hostSocketId, x.hostUserId, x.info.sandboxed⟩

theorem opened_append (x : ActiveTerminal) (chunk : Units) : opened (x.append chunk) = opened x := by
  unfold opened ActiveTerminal.append
  rfl

theorem backlog_append (x : ActiveTerminal) (chunk : Units) :
    (x.append chunk).backlog = tail (x.backlog ++ chunk) := by
  simp only [ActiveTerminal.append]

namespace Message

/-- The first `term:open` of a terminal counts, until its host closes it. -/
def opens (c : SocketId) (user : UserId) (openings : Openings) : Message → Openings
  | .open_ sessionId terminal =>
    if (openings sessionId terminal.terminalId).isSome then openings
    else put₂ openings sessionId terminal.terminalId (some ⟨c, user, terminal.sandboxed⟩)
  | .close sessionId terminalId =>
    put₂ openings sessionId terminalId ((openings sessionId terminalId).filter (·.host != c))
  | _ => openings

def publishes (c : SocketId) : Message → Option Output
  | .data sessionId terminalId chunk => some ⟨c, sessionId, terminalId, chunk⟩
  | _ => none

def types (c : SocketId) (user : UserId) (ts : Sessions) : Message → Option Input
  | .stdin sessionId terminalId data => (ts sessionId terminalId).map fun x =>
    ⟨c, x.hostSocketId, x.info.sandboxed, sessionId, terminalId, data, user⟩
  | _ => none

end Message

/-! ## The machine -/

structure World where
  socks : SocketId → Option Sock
  /-- The ids of all sockets so far. -/
  ids : List SocketId
  terminals : Sessions
  openings : Openings
  outputs : List Output
  inputs : List Input

def init : World := ⟨fun _ => none, [], fun _ _ => none, fun _ _ => none, [], []⟩

inductive Event
  /-- A socket with a token that verifies. -/
  | connect (c : SocketId) (user : JwtPayload)
  /-- The account check of a socket is answered. -/
  | settle (c : SocketId) (permitted : Bool)
  /-- A message that the rate limiter lets through. -/
  | receive (c : SocketId) (now : Nat) (message : Message)
  /-- What a call of `onJoin` waits for is answered. -/
  | answer (c : SocketId) (i : Nat) (reads : JoinReads)
  | disconnect (c : SocketId)

namespace World

def setSock (w : World) (c : SocketId) (k : Option Sock) : World := { w with socks := Function.update w.socks c k }

/-- A message is taken. -/
def take (w : World) (c : SocketId) (user : UserId) (message : Message) (k : Sock) (ts : Sessions) : World :=
  { w.setSock c (some k) with
    terminals := ts
    openings := Message.opens c user w.openings message
    outputs := w.outputs ++ (Message.publishes c message).toList
    inputs := w.inputs ++ (Message.types c user w.terminals message).toList }

end World

def step (w : World) : Event → Option World
  | .connect c user => if w.ids.contains c then none else some { w.setSock c (some (.new user)) with ids := c :: w.ids }
  | .settle c permitted => (w.socks c).map fun k => w.setSock c (some (k.settle permitted))
  | .receive c now message => (w.socks c).map fun k => match Terminal.receive c now k w.terminals message with
    | .ok (k', ts) => w.take c k.user.sub message k' ts
    | .error _ => w
  | .answer c i reads => (w.socks c).map fun k => w.setSock c (some (k.resume w.terminals (i, reads)).1)
  | .disconnect c => (w.socks c).map fun _ => { w.setSock c none with
      terminals := w.terminals.cleanupSocket c
      openings := fun sessionId terminalId => (w.openings sessionId terminalId).filter (·.host != c) }

/-! ## What the host decides -/

/-- A backlog that is made of a socket's output for the terminal, up to what was cut off. -/
def SentBy (outputs : List Output) (host : SocketId) (sessionId : SessionId) (terminalId : TerminalId)
    (backlog : Units) : Prop :=
  ∃ chunks : List Units, backlog = tail chunks.flatten ∧
    (chunks.map fun chunk => Output.mk host sessionId terminalId chunk).Sublist outputs

/-- Terminals keep their hosts: each that was opened and not closed by its host since is there as it was opened, with
output of that host only, and a terminal that is not sandboxed was typed into by its host only. -/
structure Hosted (w : World) : Prop where
  kept : ∀ sessionId terminalId r, w.openings sessionId terminalId = some r →
    ∃ x, w.terminals sessionId terminalId = some x ∧ opened x = r ∧
      SentBy w.outputs r.host sessionId terminalId x.backlog
  typed : ∀ i ∈ w.inputs, i.sandboxed ≠ some true → i.sender = i.host

/-- A terminal that is open is opened again only by its host, and as it is; a message that is refused may be
anyone's. -/
def opensOwn (w : World) : Event → Bool
  | .receive c _ (.open_ sessionId terminal) => (w.socks c).all fun k =>
    !k.inRoom sessionId || !isHostRole k.user.role || (w.terminals sessionId terminal.terminalId).all fun x =>
      x.hostSocketId == c && x.info.sandboxed == terminal.sandboxed
  | _ => true

/-! ## The tail of the output -/

theorem tail_nil : tail [] = [] := rfl

/-- Cutting twice is cutting once. -/
theorem tail_append (backlog chunk : Units) : tail (tail backlog ++ chunk) = tail (backlog ++ chunk) := by
  unfold tail
  generalize maxBacklogBytes = max
  by_cases hshort : backlog.length ≤ max
  · rw [Nat.sub_eq_zero_of_le hshort, List.drop_zero]
  · rw [← List.drop_append_of_le_length (by omega), List.drop_drop]
    congr 1
    rw [List.length_drop, List.length_append]
    omega

namespace SentBy

variable {outputs more : List Output} {host : SocketId} {sessionId : SessionId} {terminalId : TerminalId}
  {backlog : Units}

theorem nil : SentBy outputs host sessionId terminalId [] := ⟨[], tail_nil.symm, List.nil_sublist _⟩

theorem later (h : SentBy outputs host sessionId terminalId backlog) :
    SentBy (outputs ++ more) host sessionId terminalId backlog := by
  obtain ⟨chunks, hbacklog, hsent⟩ := h
  exact ⟨chunks, hbacklog, hsent.trans (List.sublist_append_left ..)⟩

theorem append (h : SentBy outputs host sessionId terminalId backlog) (chunk : Units) :
    SentBy (outputs ++ [⟨host, sessionId, terminalId, chunk⟩]) host sessionId terminalId
      (tail (backlog ++ chunk)) := by
  obtain ⟨chunks, hbacklog, hsent⟩ := h
  refine ⟨chunks ++ [chunk], ?_, ?_⟩
  · rw [hbacklog, tail_append, List.flatten_append, List.flatten_singleton]
  · rw [List.map_append]
    exact hsent.append (List.Sublist.refl _)

end SentBy

/-! ## Steps -/

/-- What holds of every run in which terminals are opened anew only as the condition says. -/
structure Sound (w : World) : Prop where
  ids : ∀ c k, w.socks c = some k → c ∈ w.ids
  openings : w.openings = fun sessionId terminalId => (w.terminals sessionId terminalId).map opened
  /-- A terminal's host is connected, and its backlog is the host's. -/
  host : ∀ sessionId terminalId x, w.terminals sessionId terminalId = some x →
    (∃ k, w.socks x.hostSocketId = some k ∧ k.user.sub = x.hostUserId) ∧
      SentBy w.outputs x.hostSocketId sessionId terminalId x.backlog
  typed : ∀ i ∈ w.inputs, i.sandboxed ≠ some true → i.sender = i.host

theorem init_sound : Sound init :=
  ⟨fun _ _ h => (by cases h), rfl, fun _ _ _ h => (by cases h), fun _ h => (by cases h)⟩

theorem Sound.opening {w : World} (hw : Sound w) (sessionId : SessionId) (terminalId : TerminalId) :
    w.openings sessionId terminalId = (w.terminals sessionId terminalId).map opened := by
  rw [hw.openings]

theorem Sound.hosted {w : World} (hw : Sound w) : Hosted w := by
  refine ⟨fun sessionId terminalId r hr => ?_, hw.typed⟩
  rw [hw.opening] at hr
  obtain ⟨x, hx, rfl⟩ := Option.map_eq_some_iff.1 hr
  exact ⟨x, hx, rfl, (hw.host _ _ _ hx).2⟩

/-- The sockets change, with those of hosts staying who they are. -/
theorem Sound.socks {w w' : World} (hw : Sound w) (hids : ∀ c k, w'.socks c = some k → c ∈ w'.ids)
    (hsocks : ∀ c k, w.socks c = some k → ∃ k', w'.socks c = some k' ∧ k'.user.sub = k.user.sub)
    (hterminals : w'.terminals = w.terminals) (hopenings : w'.openings = w.openings) (houtputs : w'.outputs = w.outputs)
    (hinputs : w'.inputs = w.inputs) : Sound w' := by
  refine ⟨hids, by rw [hopenings, hterminals]; exact hw.openings, fun sessionId terminalId x hx => ?_,
    by rw [hinputs]; exact hw.typed⟩
  rw [hterminals] at hx
  obtain ⟨⟨k, hk, huser⟩, hsent⟩ := hw.host _ _ _ hx
  obtain ⟨k', hk', huser'⟩ := hsocks _ _ hk
  exact ⟨⟨k', hk', huser'.trans huser⟩, by rw [houtputs]; exact hsent⟩

/-- One socket changes and stays who it is. -/
theorem Sound.setSock {w : World} (hw : Sound w) {c : SocketId} {k k' : Sock} (hk : w.socks c = some k)
    (huser : k'.user = k.user) : Sound (w.setSock c (some k')) := by
  refine hw.socks (fun d l hl => ?_) (fun d l hl => ?_) rfl rfl rfl rfl
  · by_cases hd : d = c
    · subst hd
      exact hw.ids _ _ hk
    · have hold : w.socks d = some l := (Function.update_of_ne hd ..).symm.trans hl
      exact hw.ids _ _ hold
  · by_cases hd : d = c
    · subst hd
      rw [hk, Option.some.injEq] at hl
      subst hl
      exact ⟨k', Function.update_self .., by rw [huser]⟩
    · exact ⟨l, (Function.update_of_ne hd ..).trans hl, rfl⟩

/-- The terminals a message that is taken leaves behind, each with a host as before or with the sender as its host. -/
theorem Sound.take {w : World} (hw : Sound w) {c : SocketId} {k k' : Sock} (hk : w.socks c = some k)
    (huser : k'.user = k.user) {message : Message} {ts : Sessions}
    (hopened : Message.opens c k.user.sub w.openings message = fun s t => (ts s t).map opened)
    (hhost : ∀ s t x, ts s t = some x →
      (x.hostSocketId = c ∧ x.hostUserId = k.user.sub ∨ ∃ y, w.terminals s t = some y ∧ opened y = opened x) ∧
        SentBy (w.outputs ++ (Message.publishes c message).toList) x.hostSocketId s t x.backlog)
    (htyped : ∀ i ∈ (Message.types c k.user.sub w.terminals message).toList,
      i.sandboxed ≠ some true → i.sender = i.host) : Sound (w.take c k.user.sub message k' ts) := by
  have hsock : Sound (w.setSock c (some k')) := hw.setSock hk huser
  refine ⟨hsock.ids, hopened, fun s t x hx => ⟨?_, (hhost s t x hx).2⟩, fun i hi => ?_⟩
  · rcases (hhost s t x hx).1 with ⟨hc, hsub⟩ | ⟨y, hy, hyx⟩
    · refine ⟨k', ?_, by rw [huser, hsub]⟩
      rw [hc]
      exact Function.update_self ..
    · obtain ⟨hhostId, huserId, -⟩ := Opened.mk.inj hyx
      rw [← hhostId, ← huserId]
      exact (hsock.host s t y hy).1
  · rcases List.mem_append.1 hi with hold | hnew
    · exact hw.typed i hold
    · exact htyped i hnew

/-- A message that leaves the terminals alone. -/
theorem Sound.take_same {w : World} (hw : Sound w) {c : SocketId} {k k' : Sock} (hk : w.socks c = some k)
    (huser : k'.user = k.user) {message : Message}
    (hopens : Message.opens c k.user.sub w.openings message = w.openings)
    (htyped : ∀ i ∈ (Message.types c k.user.sub w.terminals message).toList,
      i.sandboxed ≠ some true → i.sender = i.host) : Sound (w.take c k.user.sub message k' w.terminals) :=
  hw.take hk huser (hopens.trans hw.openings)
    (fun s t x hx => ⟨.inr ⟨x, hx, rfl⟩, (hw.host s t x hx).2.later⟩) htyped

/-- A message by which a terminal is changed, but not its host, user and sandboxed flag. -/
theorem Sound.take_modify {w : World} (hw : Sound w) {c : SocketId} {k : Sock} (hk : w.socks c = some k)
    {message : Message} {sessionId : SessionId} {terminalId : TerminalId} {f : ActiveTerminal → ActiveTerminal}
    (hopens : Message.opens c k.user.sub w.openings message = w.openings)
    (htypes : Message.types c k.user.sub w.terminals message = none) (hf : ∀ x, opened (f x) = opened x)
    (hsent : ∀ x, w.terminals sessionId terminalId = some x →
      SentBy (w.outputs ++ (Message.publishes c message).toList) x.hostSocketId sessionId terminalId (f x).backlog) :
    Sound (w.take c k.user.sub message k (w.terminals.modify sessionId terminalId f)) := by
  refine hw.take hk rfl ?_ (fun s t x hx => ?_) (by rw [htypes]; exact fun i hi => absurd hi List.not_mem_nil)
  · rw [hopens, hw.openings]
    refine .trans ?_ (put₂_map (Option.map opened)).symm
    refine (put₂_same ?_).symm
    rw [Option.map_map]
    exact Option.map_congr fun x _ => (hf x).symm
  · rcases put₂_eq hx with ⟨rfl, rfl, hx⟩ | ⟨-, hx⟩
    · obtain ⟨y, hy, rfl⟩ := Option.map_eq_some_iff.1 hx
      have hhost : (f y).hostSocketId = y.hostSocketId := congrArg Opened.host (hf y)
      rw [hhost]
      exact ⟨.inr ⟨y, hy, (hf y).symm⟩, hsent y hy⟩
    · exact ⟨.inr ⟨x, hx, rfl⟩, (hw.host s t x hx).2.later⟩

theorem isHostSocket_some {ts : Sessions} {sessionId : SessionId} {terminalId : TerminalId} {c : SocketId}
    (h : ts.isHostSocket sessionId terminalId c = true) :
    ∃ x, ts sessionId terminalId = some x ∧ x.hostSocketId = c := by
  unfold Sessions.isHostSocket Sessions.getHostSocketId at h
  exact Option.map_eq_some_iff.1 (beq_iff_eq.1 h)

/-- Who may type into a terminal that is not sandboxed. -/
theorem canSendStdin_host {ts : Sessions} {sessionId : SessionId} {terminalId : TerminalId} {user : JwtPayload}
    {c : SocketId} (h : ts.canSendStdin sessionId terminalId user c = true) {x : ActiveTerminal}
    (hx : ts sessionId terminalId = some x) (hsandboxed : x.info.sandboxed ≠ some true) : x.hostSocketId = c := by
  unfold Sessions.canSendStdin at h
  simp only [hx] at h
  split at h
  · cases h
  · rw [if_neg (by rwa [beq_iff_eq]), Bool.and_eq_true] at h
    exact beq_iff_eq.1 h.2

theorem onOpen_room {c : SocketId} {k : Sock} {ts ts' : Sessions} {sessionId : SessionId}
    {terminal : TerminalSessionInfo} (h : onOpen c k ts sessionId terminal = .ok ts') :
    k.inRoom sessionId = true ∧ isHostRole k.user.role = true ∧
      ts' = ts.openTerminal sessionId terminal c k.user.sub := by
  refine ⟨?_, onOpen_eq_ok h⟩
  unfold onOpen at h
  split at h
  · cases h
  · rename_i hroom
    simpa using hroom

theorem onStdin_typed {c : SocketId} {k : Sock} {ts ts' : Sessions} {sessionId : SessionId} {terminalId : TerminalId}
    {data : Units} (h : onStdin c k ts sessionId terminalId data = .ok ts') :
    ts.canSendStdin sessionId terminalId k.user c = true := by
  unfold onStdin at h
  split at h
  · cases h
  · split at h
    · cases h
    · split at h
      · cases h
      · rename_i hcan
        simpa using hcan

/-- An open that is taken over a terminal as the condition says. -/
theorem open_sound {w : World} (hw : Sound w) {c : SocketId} {now : Nat} {k : Sock} {sessionId : SessionId}
    {terminal : TerminalSessionInfo} {ts : Sessions}
    (hok : opensOwn w (.receive c now (.open_ sessionId terminal)) = true) (hk : w.socks c = some k)
    (h : onOpen c k w.terminals sessionId terminal = .ok ts) :
    Sound (w.take c k.user.sub (.open_ sessionId terminal) k ts) := by
  obtain ⟨hroom, hrole, rfl⟩ := onOpen_room h
  simp only [opensOwn, hk, Option.all_some, hroom, hrole, Bool.not_true, Bool.false_or, Option.all_eq_true,
    Bool.and_eq_true, beq_iff_eq] at hok
  refine hw.take hk rfl ?_ (fun s t x hx => ?_) (fun i hi => absurd hi List.not_mem_nil)
  · refine .trans ?_ (put₂_map (Option.map opened)).symm
    rw [← hw.openings]
    simp only [Message.opens]
    split
    · rename_i hopen
      -- opened again by its host: the terminal looks as it did
      refine (put₂_same ?_).symm
      rw [hw.opening] at hopen ⊢
      obtain ⟨x, hx⟩ := Option.isSome_iff_exists.1 (Option.isSome_map .. ▸ hopen)
      obtain ⟨hhost, hsandboxed⟩ := hok x hx
      obtain ⟨⟨l, hl, huser⟩, -⟩ := hw.host _ _ x hx
      rw [hhost, hk, Option.some.injEq] at hl
      subst hl
      rw [hx]
      exact congrArg some (Opened.mk.injEq .. ▸ ⟨hhost, huser.symm, hsandboxed⟩)
    · rfl
  · have hput : put₂ w.terminals sessionId terminal.terminalId (some ⟨terminal, c, k.user.sub, []⟩) s t = some x := hx
    rcases put₂_eq hput with ⟨-, -, hnew⟩ | ⟨-, hold⟩
    · cases hnew
      exact ⟨.inl ⟨rfl, rfl⟩, .nil⟩
    · exact ⟨.inr ⟨x, hold, rfl⟩, (hw.host s t x hold).2.later⟩

/-- An open that the condition excludes takes the terminal from who opened it, or makes it another. -/
theorem open_breaks {w : World} (hw : Sound w) {c : SocketId} {now : Nat} {k : Sock} {sessionId : SessionId}
    {terminal : TerminalSessionInfo} {ts : Sessions}
    (h : onOpen c k w.terminals sessionId terminal = .ok ts) (hk : w.socks c = some k)
    (hhosted : Hosted (w.take c k.user.sub (.open_ sessionId terminal) k ts)) :
    opensOwn w (.receive c now (.open_ sessionId terminal)) = true := by
  obtain ⟨hroom, hrole, rfl⟩ := onOpen_room h
  simp only [opensOwn, hk, Option.all_some, hroom, hrole, Bool.not_true, Bool.false_or, Option.all_eq_true,
    Bool.and_eq_true, beq_iff_eq]
  intro x hx
  have hopened : w.openings sessionId terminal.terminalId = some (opened x) := by
    rw [hw.opening, hx, Option.map_some]
  have hstays : (w.take c k.user.sub (.open_ sessionId terminal) k
      (w.terminals.openTerminal sessionId terminal c k.user.sub)).openings sessionId terminal.terminalId =
        some (opened x) := by
    show Message.opens c k.user.sub w.openings (.open_ sessionId terminal) sessionId terminal.terminalId = _
    rw [Message.opens, if_pos (by rw [hopened]; rfl), hopened]
  obtain ⟨y, hy, hyx, -⟩ := hhosted.kept _ _ _ hstays
  have hnew : some ⟨terminal, c, k.user.sub, []⟩ = some y := put₂_self.symm.trans hy
  cases hnew
  obtain ⟨hhost, -, hsandboxed⟩ := Opened.mk.inj hyx
  exact ⟨hhost.symm, hsandboxed.symm⟩

/-- A message that is taken as the condition says. -/
theorem receive_sound {w : World} (hw : Sound w) {c : SocketId} {now : Nat} {message : Message} {k k' : Sock}
    {ts : Sessions} (hok : opensOwn w (.receive c now message) = true) (hk : w.socks c = some k)
    (h : Terminal.receive c now k w.terminals message = .ok (k', ts)) :
    Sound (w.take c k.user.sub message k' ts) := by
  have hnone : ∀ i ∈ (none : Option Input).toList, i.sandboxed ≠ some true → i.sender = i.host :=
    fun i hi => absurd hi List.not_mem_nil
  cases message with
  | join sessionId =>
    cases h
    exact hw.take_same hk (k.user_startJoin sessionId) rfl hnone
  | leave sessionId =>
    cases h
    exact hw.take_same hk (k.user_leave sessionId) rfl hnone
  | open_ sessionId terminal =>
    obtain ⟨ts', hopen, hout⟩ := map_eq_ok h
    cases hout
    exact open_sound hw hok hk hopen
  | data sessionId terminalId data =>
    obtain ⟨ts', hdata, hout⟩ := map_eq_ok h
    cases hout
    obtain ⟨hhost, hts⟩ := asHost_eq_ok hdata
    cases hts
    obtain ⟨x, hx, hc⟩ := isHostSocket_some hhost
    refine hw.take_modify hk rfl rfl (opened_append · data) fun y hy => ?_
    rw [hx, Option.some.injEq] at hy
    subst hy
    show SentBy (w.outputs ++ [⟨c, sessionId, terminalId, data⟩]) _ _ _ _
    rw [← hc, backlog_append]
    exact (hw.host _ _ x hx).2.append data
  | resize sessionId terminalId cols rows =>
    obtain ⟨ts', hresize, hout⟩ := map_eq_ok h
    cases hout
    obtain ⟨-, hts⟩ := asHost_eq_ok hresize
    cases hts
    exact hw.take_modify hk rfl rfl (fun _ => rfl) fun y hy => (hw.host _ _ y hy).2.later
  | permission sessionId terminalId writableBy ids =>
    obtain ⟨ts', hpermission, hout⟩ := map_eq_ok h
    cases hout
    obtain ⟨-, mode, rfl⟩ := onPermission_eq_ok hpermission
    exact hw.take_modify hk rfl rfl (fun _ => rfl) fun y hy => (hw.host _ _ y hy).2.later
  | stdin sessionId terminalId data =>
    obtain ⟨ts', hstdin, hout⟩ := map_eq_ok h
    cases hout
    have hsame := onStdin_eq_ok hstdin
    subst hsame
    refine hw.take_same hk rfl rfl fun i hi hsandboxed => ?_
    obtain ⟨x, hx, rfl⟩ := Option.map_eq_some_iff.1 (Option.mem_toList.1 hi)
    exact (canSendStdin_host (onStdin_typed hstdin) hx hsandboxed).symm
  | close sessionId terminalId =>
    obtain ⟨ts', hclose, hout⟩ := map_eq_ok h
    cases hout
    obtain ⟨hhost, hts⟩ := asHost_eq_ok hclose
    cases hts
    obtain ⟨x, hx, hc⟩ := isHostSocket_some hhost
    refine hw.take hk rfl ?_ (fun s t y hy => ?_) hnone
    · refine .trans ?_ (put₂_map (Option.map opened)).symm
      rw [← hw.openings]
      simp only [Message.opens]
      have hgone : (w.openings sessionId terminalId).filter (·.host != c) = none := by
        rw [hw.opening, hx, Option.map_some, Option.filter_some, if_neg]
        simpa [opened] using hc
      rw [hgone]
      rfl
    · have hput : put₂ w.terminals sessionId terminalId none s t = some y := hy
      rcases put₂_eq hput with ⟨-, -, hnew⟩ | ⟨-, hold⟩
      · cases hnew
      · exact ⟨.inr ⟨y, hold, rfl⟩, (hw.host s t y hold).2.later⟩

theorem disconnect_sound {w : World} (hw : Sound w) (c : SocketId) :
    Sound { w.setSock c none with
      terminals := w.terminals.cleanupSocket c
      openings := fun sessionId terminalId => (w.openings sessionId terminalId).filter (·.host != c) } := by
  have hother : ∀ d k, Function.update w.socks c none d = some k → d ≠ c ∧ w.socks d = some k := by
    intro d k hd
    by_cases hdc : d = c
    · subst hdc
      rw [Function.update_self] at hd
      cases hd
    · rw [Function.update_of_ne hdc] at hd
      exact ⟨hdc, hd⟩
  refine ⟨fun d k hd => hw.ids d k (hother d k hd).2, ?_, fun s t x hx => ?_, hw.typed⟩
  · funext s t
    show (w.openings s t).filter (·.host != c) = ((w.terminals s t).filter (·.hostSocketId != c)).map opened
    rw [hw.opening]
    cases w.terminals s t with
    | none => rfl
    | some x =>
      rw [Option.map_some, Option.filter_some, Option.filter_some, apply_ite (Option.map opened)]
      rfl
  · obtain ⟨hx, hne⟩ := Option.filter_eq_some_iff.1 hx
    obtain ⟨⟨k, hk, huser⟩, hsent⟩ := hw.host s t x hx
    exact ⟨⟨k, (Function.update_of_ne (bne_iff_ne.1 hne) ..).trans hk, huser⟩, hsent⟩

theorem step_sound {w w' : World} {e : Event} (hw : Sound w) (hok : opensOwn w e = true) (h : step w e = some w') :
    Sound w' := by
  cases e with
  | connect c user =>
    rw [step] at h
    split at h
    · cases h
    · rename_i hnew
      cases h
      have hother : ∀ d k, w.socks d = some k → d ≠ c := by
        rintro d k hd rfl
        exact hnew (List.contains_iff_mem.2 (hw.ids d k hd))
      refine hw.socks (fun d k hd => ?_) (fun d k hd => ?_) rfl rfl rfl rfl
      · by_cases hdc : d = c
        · exact hdc ▸ List.mem_cons_self
        · exact List.mem_cons_of_mem _ (hw.ids d k ((Function.update_of_ne hdc ..).symm.trans hd))
      · exact ⟨k, (Function.update_of_ne (hother d k hd) ..).trans hd, rfl⟩
  | settle c permitted =>
    obtain ⟨k, hk, rfl⟩ := Option.map_eq_some_iff.1 h
    exact hw.setSock hk (k.user_settle permitted)
  | answer c i reads =>
    obtain ⟨k, hk, rfl⟩ := Option.map_eq_some_iff.1 h
    exact hw.setSock hk (k.user_resume w.terminals (i, reads))
  | receive c now message =>
    obtain ⟨k, hk, rfl⟩ := Option.map_eq_some_iff.1 h
    cases hreceive : Terminal.receive c now k w.terminals message with
    | error f => exact hw
    | ok r => exact receive_sound hw hok hk hreceive
  | disconnect c =>
    obtain ⟨k, -, rfl⟩ := Option.map_eq_some_iff.1 h
    exact disconnect_sound hw c

/-- After a step that the condition excludes a terminal is not as it was opened. -/
theorem step_breaks {w w' : World} {e : Event} (hw : Sound w) (h : step w e = some w') (hhosted : Hosted w') :
    opensOwn w e = true := by
  cases e with
  | receive c now message =>
    cases message with
    | open_ sessionId terminal =>
      obtain ⟨k, hk, rfl⟩ := Option.map_eq_some_iff.1 h
      cases hopen : onOpen c k w.terminals sessionId terminal with
      | error f =>
        -- a refused open: the sender is not in the room or no host
        unfold onOpen at hopen
        simp only [opensOwn, hk, Option.all_some, Bool.or_eq_true, Bool.not_eq_true']
        split at hopen
        · rename_i hroom
          exact .inl (.inl (by simpa using hroom))
        · split at hopen
          · rename_i hrole
            exact .inl (.inr (by simpa using hrole))
          · cases hopen
      | ok ts =>
        simp only [Terminal.receive, hopen] at hhosted
        exact open_breaks hw hopen hk hhosted
    | _ => rfl
  | _ => rfl

/-- In every run, each terminal keeps its host, its host's user and its sandboxed flag until its host closes it or
goes, shows its host's output only and takes input from its host only unless it is sandboxed, if and only if no
terminal that is open is opened again by another socket or with another flag. -/
theorem keeps_host {es : List Event} {w : World} (h : run step init es = some w) :
    Meets step (fun u e => opensOwn u e = true) init es ↔
      ∀ es₁ es₂ u, es = es₁ ++ es₂ → run step init es₁ = some u → Hosted u :=
  meets_iff_of_keeps (fun _ _ _ => step_sound) (fun _ => Sound.hosted) (fun _ _ _ => step_breaks) init_sound h

/-! ### A second instructor -/

namespace Example

def zayd : JwtPayload := ⟨"zayd", .instructor, "Zayd", some "acme", none, none⟩

def amal : JwtPayload := ⟨"amal", .instructor, "Amal", some "acme", none, none⟩

def bilal : JwtPayload := ⟨"bilal", .student, "Bilal", some "acme", none, none⟩

def monday : LiveSession := ⟨"monday", .live, ⟨"web-1", some "zayd", some "acme", some ["code-instruction"]⟩⟩

/-- A socket connects and joins the session. -/
def joined (c : SocketId) (user : JwtPayload) : List Event :=
  [.connect c user, .settle c true, .receive c 0 (.join "monday"), .answer c 0 ⟨none, false, false⟩,
    .answer c 0 ⟨some monday, true, true⟩]

def bash (sandboxed : Option Bool) : TerminalSessionInfo :=
  ⟨"bash", "Bash", .ofInt 80, .ofInt 24, true, sandboxed, .instructorOnly, none⟩

/-- The instructor opens a shell, and a student types into it and publishes as its host. -/
def watched : List Event :=
  joined "c1" zayd ++ joined "c2" bilal ++
    [.receive "c1" 1 (.open_ "monday" (bash none)), .receive "c1" 2 (.data "monday" "bash" [36, 32]),
      .receive "c2" 3 (.stdin "monday" "bash" [108, 115]), .receive "c2" 4 (.data "monday" "bash" [33]),
      .receive "c1" 5 (.stdin "monday" "bash" [108, 115])]

/-- Another instructor of the organization opens a terminal of that id. -/
def takenAway : List Event :=
  joined "c1" zayd ++ joined "c2" amal ++
    [.receive "c1" 1 (.open_ "monday" (bash none)), .receive "c1" 2 (.data "monday" "bash" [36, 32]),
      .receive "c2" 3 (.open_ "monday" (bash (some true)))]

end Example

open Example in
theorem watched_keeps : ∃ w, run step init watched = some w ∧
    (∀ es₁ es₂ u, watched = es₁ ++ es₂ → run step init es₁ = some u → Hosted u) ∧
    w.outputs = [⟨"c1", "monday", "bash", [36, 32]⟩] ∧
    w.inputs = [⟨"c1", "c1", none, "monday", "bash", [108, 115], "zayd"⟩] := by
  have hrun : (run step init watched).map (fun w => (w.outputs, w.inputs)) =
      some ([⟨"c1", "monday", "bash", [36, 32]⟩],
        [⟨"c1", "c1", none, "monday", "bash", [108, 115], "zayd"⟩]) := by
    decide
  obtain ⟨w, hw, hout⟩ := Option.map_eq_some_iff.1 hrun
  rw [Prod.mk.injEq] at hout
  exact ⟨w, hw, (keeps_host hw).1 (by decide), hout⟩

open Example in
/-- The terminal has another host, takes input from afar, and its output is gone. -/
theorem host_replaced : ∃ w, run step init takenAway = some w ∧
    w.openings "monday" "bash" = some ⟨"c1", "zayd", none⟩ ∧
    (w.terminals "monday" "bash").map (fun x => (opened x, x.backlog)) = some (⟨"c2", "amal", some true⟩, []) ∧
    ¬Hosted w := by
  have hrun : (run step init takenAway).map (fun w => (w.openings "monday" "bash",
      (w.terminals "monday" "bash").map fun x => (opened x, x.backlog))) =
        some (some ⟨"c1", "zayd", none⟩, some (⟨"c2", "amal", some true⟩, [])) := by
    decide
  obtain ⟨w, hw, hout⟩ := Option.map_eq_some_iff.1 hrun
  rw [Prod.mk.injEq] at hout
  refine ⟨w, hw, hout.1, hout.2, fun hhosted => ?_⟩
  obtain ⟨x, hx, hopened, -⟩ := hhosted.kept _ _ _ hout.1
  have hnow := hout.2
  rw [hx, Option.map_some, hopened, Option.some.injEq, Prod.mk.injEq] at hnow
  exact absurd hnow.1 (by decide)

end Livetich.Terminal.Hosts
