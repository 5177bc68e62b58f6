/-
What the viewers of a session see of its terminals: `onJoin` sends the open terminals with their backlogs, and the
handlers relay what hosts do. A host is not sent its own output, nor the news of its own terminal.

A viewer is taken to do with each message what the service does, but to keep all the text it gets.
-/
import Livetich.Sockets.Mirror
import Livetich.Terminal.Hosts

namespace Livetich.Terminal.Mirror

open Livetich.Sockets Livetich.Sockets.Mirror
open Hosts (backlog_append tail_append)

/-! ## What is relayed -/

/-- `term:opened`, `term:data`, `term:resize`, `term:permission` and `term:closed`. -/
inductive Out
  | opened (terminal : TerminalSessionInfo)
  | data (terminalId : TerminalId) (data : Units)
  | resize (terminalId : TerminalId) (cols rows : Js.Number)
  | permission (terminalId : TerminalId) (writableBy : String) (delegatedUserIds : Option (List UserId))
  | closed (terminalId : TerminalId)

/-- What the handler of an accepted message emits to the room. -/
def emits : Message → Sessions → Option (Emission Out)
  | .open_ sessionId terminal, _ => some ⟨sessionId, true, .opened terminal⟩
  | .data sessionId terminalId data, _ => some ⟨sessionId, true, .data terminalId data⟩
  | .resize sessionId terminalId cols rows, _ => some ⟨sessionId, true, .resize terminalId cols rows⟩
  | .permission sessionId terminalId writableBy delegatedUserIds, _ =>
    some ⟨sessionId, false, .permission terminalId writableBy delegatedUserIds⟩
  | .close sessionId terminalId, _ => some ⟨sessionId, false, .closed terminalId⟩
  -- standard input goes to the host alone
  | .stdin .., _ | .join _, _ | .leave _, _ => none

/-- A terminal as a viewer has it. -/
structure Viewed where
  info : TerminalSessionInfo
  text : Units

abbrev Screen := TerminalId → Option Viewed

namespace Viewed

def append (y : Viewed) (data : Units) : Viewed := { y with text := y.text ++ data }

def resize (y : Viewed) (cols rows : Js.Number) : Viewed :=
  { y with info := { y.info with cols := cols, rows := rows } }

def permit (y : Viewed) (writableBy : TerminalWritableMode) (ids : Option (List UserId)) : Viewed :=
  { y with info := { y.info with writableBy := writableBy, delegatedUserIds := ids } }

end Viewed

def Screen.change (screen : Screen) (terminalId : TerminalId) (f : Viewed → Viewed) : Screen :=
  Function.update screen terminalId ((screen terminalId).map f)

def hear (screen : Screen) : Out → Screen
  | .opened terminal => Function.update screen terminal.terminalId (some ⟨terminal, []⟩)
  | .data terminalId data => screen.change terminalId (·.append data)
  | .resize terminalId cols rows => screen.change terminalId (·.resize cols rows)
  | .permission terminalId writableBy ids => match TerminalWritableMode.ofString writableBy with
    | some mode => screen.change terminalId (·.permit mode ids)
    | none => screen
  | .closed terminalId => Function.update screen terminalId none

/-- `term:state`, from `getTerminalsForSession`. -/
def snapshot (sessionId : SessionId) (ts : Sessions) : Screen :=
  fun terminalId => (ts sessionId terminalId).map fun x => ⟨x.info, x.backlog⟩

/-- The `term:closed` messages of `handleDisconnect`, one for each terminal the socket hosted. -/
def closing (ts : Sessions) (c : SocketId) (sessionId : SessionId) (screen : Screen) : Screen :=
  fun terminalId => if ts.isHostSocket sessionId terminalId c then none else screen terminalId

@[reducible] def feed : Feed Sessions Message Out Screen where
  start := fun _ _ => none
  receive := receive
  cleanupSocket := Sessions.cleanupSocket
  emits := emits
  closing := closing
  snapshot := snapshot
  hear := hear
  blank := fun _ => none

/-! ## What a true screen shows -/

/-- A terminal, as seen by socket `c`: a host is not shown its own. -/
def ShowsTerminal (c : SocketId) (x : Option ActiveTerminal) (y : Option Viewed) : Prop :=
  match x with
  | none => y = none
  | some x => x.hostSocketId = c ∨ ∃ v, y = some v ∧ v.info = x.info ∧ tail v.text = x.backlog

def Shows (c : SocketId) (sessionId : SessionId) (ts : Sessions) (screen : Screen) : Prop :=
  ∀ terminalId, ShowsTerminal c (ts sessionId terminalId) (screen terminalId)

/-- Every backlog is cut to its last units. -/
def Cut (ts : Sessions) : Prop :=
  ∀ sessionId terminalId x, ts sessionId terminalId = some x → tail x.backlog = x.backlog

theorem tail_nil : tail [] = [] := List.drop_nil

theorem tail_tail (backlog : Units) : tail (tail backlog) = tail backlog := by
  have h := tail_append backlog []
  rw [List.append_nil, List.append_nil] at h
  exact h

theorem append_info (x : ActiveTerminal) (chunk : Units) : (x.append chunk).info = x.info := by
  unfold ActiveTerminal.append
  rfl

variable {ts ts' : Sessions} {c d : SocketId} {k k' : Sock} {now : Nat} {m : Message} {sessionId : SessionId}
  {terminalId : TerminalId} {screen : Screen} {f : ActiveTerminal → ActiveTerminal}

theorem set_self {o : Option ActiveTerminal} : ts.set sessionId terminalId o sessionId terminalId = o := by
  unfold Sessions.set
  rw [Function.update_self, Function.update_self]

theorem set_ne {o : Option ActiveTerminal} {s : SessionId} {t : TerminalId} (h : ¬(s = sessionId ∧ t = terminalId)) :
    ts.set sessionId terminalId o s t = ts s t :=
  Lib.put₂_of_ne h

theorem Cut.set {o : Option ActiveTerminal} (h : Cut ts) (ho : ∀ x, o = some x → tail x.backlog = x.backlog) :
    Cut (ts.set sessionId terminalId o) := by
  intro s t x hx
  rcases Lib.put₂_eq hx with ⟨-, -, hnew⟩ | ⟨-, hold⟩
  · exact ho x hnew
  · exact h s t x hold

theorem Cut.modify (h : Cut ts)
    (hf : ∀ x : ActiveTerminal, tail x.backlog = x.backlog → tail (f x).backlog = (f x).backlog) :
    Cut (ts.modify sessionId terminalId f) := by
  refine h.set fun x hx => ?_
  obtain ⟨y, hy, rfl⟩ := Option.map_eq_some_iff.1 hx
  exact hf y (h _ _ y hy)

/-! ## What a message does, and what it emits -/

/-- An accepted message changes one terminal of one session, or nothing; what it emits is about that change. -/
inductive Relayed (d : SocketId) (k : Sock) (ts : Sessions) : Message → Sessions → Prop
  | quiet (m : Message) : emits m ts = none → Relayed d k ts m ts
  | opened (s : SessionId) (terminal : TerminalSessionInfo) :
    Relayed d k ts (.open_ s terminal) (ts.openTerminal s terminal d k.user.sub)
  | data (s : SessionId) (t : TerminalId) (data : Units) : ts.isHostSocket s t d = true →
    Relayed d k ts (.data s t data) (ts.appendData s t data)
  | resize (s : SessionId) (t : TerminalId) (cols rows : Js.Number) : ts.isHostSocket s t d = true →
    Relayed d k ts (.resize s t cols rows) (ts.resizeTerminal s t cols rows)
  | permission (s : SessionId) (t : TerminalId) (writableBy : String) (mode : TerminalWritableMode)
    (ids : Option (List UserId)) : TerminalWritableMode.ofString writableBy = some mode →
    Relayed d k ts (.permission s t writableBy ids) (ts.updatePermission s t mode ids)
  | closed (s : SessionId) (t : TerminalId) : Relayed d k ts (.close s t) (ts.closeTerminal s t)

theorem relayed_permission {writableBy : String} {ids : Option (List UserId)}
    (h : onPermission d k ts sessionId terminalId writableBy ids = .ok ts') :
    Relayed d k ts (.permission sessionId terminalId writableBy ids) ts' := by
  obtain ⟨-, h⟩ := asHost_eq_ok h
  split at h
  · cases h
  · rename_i mode hmode
    split at h
    · cases h
    · split at h
      · cases h
      · split at h
        · cases h
        · cases h
          exact .permission _ _ _ _ _ hmode

theorem relayed (h : feed.receive d now k ts m = .ok (k', ts')) : Relayed d k ts m ts' := by
  cases m with
  | join sessionId =>
    cases h
    exact .quiet _ rfl
  | leave sessionId =>
    cases h
    exact .quiet _ rfl
  | open_ sessionId terminal =>
    obtain ⟨ts'', hts, hout⟩ := map_eq_ok h
    cases hout
    obtain ⟨-, rfl⟩ := onOpen_eq_ok hts
    exact .opened ..
  | data sessionId terminalId data =>
    obtain ⟨ts'', hts, hout⟩ := map_eq_ok h
    cases hout
    obtain ⟨hhost, hts⟩ := asHost_eq_ok hts
    cases hts
    exact .data _ _ _ hhost
  | resize sessionId terminalId cols rows =>
    obtain ⟨ts'', hts, hout⟩ := map_eq_ok h
    cases hout
    obtain ⟨hhost, hts⟩ := asHost_eq_ok hts
    cases hts
    exact .resize _ _ _ _ hhost
  | permission sessionId terminalId writableBy ids =>
    obtain ⟨ts'', hts, hout⟩ := map_eq_ok h
    cases hout
    exact relayed_permission hts
  | stdin sessionId terminalId data =>
    obtain ⟨ts'', hts, hout⟩ := map_eq_ok h
    cases hout
    rw [onStdin_eq_ok hts]
    exact .quiet _ rfl
  | close sessionId terminalId =>
    obtain ⟨ts'', hts, hout⟩ := map_eq_ok h
    cases hout
    obtain ⟨-, hts⟩ := asHost_eq_ok hts
    cases hts
    exact .closed ..

/-- Rooms are entered by `onJoin` alone. -/
theorem inRoom_of_receive (h : feed.receive d now k ts m = .ok (k', ts')) (hin : k'.inRoom sessionId = true) :
    k.inRoom sessionId = true := by
  have hsame : ∀ {r : Except Failure Sessions}, (k, ·) <$> r = .ok (k', ts') → k.inRoom sessionId = true := by
    intro r hr
    obtain ⟨ts'', -, hout⟩ := map_eq_ok hr
    cases hout
    exact hin
  cases m with
  | join s =>
    cases h
    exact hin
  | leave s =>
    cases h
    exact inRoom_of_leave hin
  | open_ s terminal => exact hsame h
  | data s t data => exact hsame h
  | resize s t cols rows => exact hsame h
  | permission s t writableBy ids => exact hsame h
  | stdin s t data => exact hsame h
  | close s t => exact hsame h

theorem Relayed.cut (hr : Relayed d k ts m ts') (h : Cut ts) : Cut ts' := by
  cases hr with
  | quiet => exact h
  | opened => exact h.set fun x hx => by cases hx; exact tail_nil
  | data => exact h.modify fun x _ => by rw [backlog_append, tail_tail]
  | resize => exact h.modify fun x hx => hx
  | permission => exact h.modify fun x hx => hx
  | closed => exact h.set fun x hx => by cases hx

/-- Elsewhere the change does not show. -/
theorem Shows.set_elsewhere {o : Option ActiveTerminal} {s : SessionId} (h : Shows c s ts screen) (hs : s ≠ sessionId) :
    Shows c s (ts.set sessionId terminalId o) screen := by
  intro t
  rw [set_ne fun ⟨hs', _⟩ => hs hs']
  exact h t

/-- One terminal changes, and so does the screen there. -/
theorem Shows.set {o : Option ActiveTerminal} {y : Option Viewed} (h : Shows c sessionId ts screen)
    (hy : ShowsTerminal c o y) :
    Shows c sessionId (ts.set sessionId terminalId o) (Function.update screen terminalId y) := by
  intro t
  by_cases ht : t = terminalId
  · subst ht
    rw [set_self, Function.update_self]
    exact hy
  · rw [set_ne fun ⟨_, ht'⟩ => ht ht', Function.update_of_ne ht]
    exact h t

/-- A change of a terminal that its viewers make too. -/
theorem Shows.change {g : Viewed → Viewed} (h : Shows c sessionId ts screen)
    (hhost : ∀ x, (f x).hostSocketId = x.hostSocketId)
    (hfg : ∀ x v, v.info = x.info → tail v.text = x.backlog →
      (g v).info = (f x).info ∧ tail (g v).text = (f x).backlog) :
    Shows c sessionId (ts.modify sessionId terminalId f) (screen.change terminalId g) := by
  refine h.set ?_
  have hterm := h terminalId
  unfold ShowsTerminal at hterm ⊢
  cases hx : ts sessionId terminalId with
  | none =>
    rw [hx] at hterm
    show (screen terminalId).map g = none
    rw [show screen terminalId = none from hterm]
    rfl
  | some x =>
    rw [hx] at hterm
    rcases hterm with hself | ⟨v, hv, hinfo, htext⟩
    · exact .inl ((hhost x).trans hself)
    · exact .inr ⟨g v, by rw [hv]; rfl, hfg x v hinfo htext⟩

/-- The host itself is sent nothing of what it does to its terminal. -/
theorem Shows.own (h : Shows c sessionId ts screen) {x : ActiveTerminal} (hx : x.hostSocketId = c) :
    Shows c sessionId (ts.set sessionId terminalId (some x)) screen := by
  intro t
  by_cases ht : t = terminalId
  · subst ht
    rw [set_self]
    exact .inl hx
  · rw [set_ne fun ⟨_, ht'⟩ => ht ht']
    exact h t

theorem Shows.own_modify (h : Shows c sessionId ts screen) (hhost : ts.isHostSocket sessionId terminalId c = true)
    (hf : ∀ x, (f x).hostSocketId = x.hostSocketId) : Shows c sessionId (ts.modify sessionId terminalId f) screen := by
  unfold Sessions.isHostSocket Sessions.getHostSocketId at hhost
  unfold Sessions.modify
  cases hx : ts sessionId terminalId with
  | none =>
    rw [hx] at hhost
    cases hhost
  | some x =>
    rw [hx] at hhost
    exact h.own ((hf x).trans (by simpa using hhost))

/-- Who is sent nothing sees the same as before: another session, or the sender's own terminal. -/
theorem Relayed.silent (hr : Relayed d k ts m ts') (hpassed : ∀ e ∈ emits m ts',
    e.sessionId = sessionId → e.others = true ∧ c = d) (h : Shows c sessionId ts screen) :
    Shows c sessionId ts' screen := by
  cases hr with
  | quiet m hm => exact h
  | opened s terminal =>
    by_cases hs : sessionId = s
    · subst hs
      obtain ⟨-, rfl⟩ := hpassed _ rfl rfl
      exact h.own (x := ⟨terminal, c, k.user.sub, []⟩) rfl
    · exact h.set_elsewhere hs
  | data s t data hhost =>
    by_cases hs : sessionId = s
    · subst hs
      obtain ⟨-, rfl⟩ := hpassed _ rfl rfl
      exact h.own_modify hhost (·.append_hostSocketId data)
    · exact h.set_elsewhere hs
  | resize s t cols rows hhost =>
    by_cases hs : sessionId = s
    · subst hs
      obtain ⟨-, rfl⟩ := hpassed _ rfl rfl
      exact h.own_modify hhost fun _ => rfl
    · exact h.set_elsewhere hs
  | permission s t writableBy mode ids hmode =>
    apply h.set_elsewhere
    rintro rfl
    cases (hpassed _ rfl rfl).1
  | closed s t =>
    apply h.set_elsewhere
    rintro rfl
    cases (hpassed _ rfl rfl).1

/-- Who is sent the news makes the change too. -/
theorem Relayed.emitted (hr : Relayed d k ts m ts') {e : Emission Out} (he : emits m ts' = some e)
    (hs : e.sessionId = sessionId) (h : Shows c sessionId ts screen) : Shows c sessionId ts' (hear screen e.out) := by
  cases hr with
  | quiet m hm =>
    rw [hm] at he
    cases he
  | opened s terminal =>
    cases he
    subst hs
    exact h.set (.inr ⟨⟨terminal, []⟩, rfl, rfl, tail_nil⟩)
  | data s t data hhost =>
    cases he
    subst hs
    refine h.change (·.append_hostSocketId data) fun x v hinfo htext => ?_
    constructor
    · rw [append_info]
      exact hinfo
    · show tail (v.text ++ data) = (x.append data).backlog
      rw [backlog_append, ← htext, tail_append]
  | resize s t cols rows hhost =>
    cases he
    subst hs
    refine h.change (fun _ => rfl) fun x v hinfo htext => ⟨?_, htext⟩
    simp only [Viewed.resize, ActiveTerminal.resize, hinfo]
  | permission s t writableBy mode ids hmode =>
    cases he
    subst hs
    show Shows c s _ (match TerminalWritableMode.ofString writableBy with | some mode => _ | none => _)
    rw [hmode]
    refine h.change (fun _ => rfl) fun x v hinfo htext => ⟨?_, htext⟩
    simp only [Viewed.permit, ActiveTerminal.permit, hinfo]
  | closed s t =>
    cases he
    subst hs
    exact h.set rfl

/-- The terminals of a socket that goes are closed for everyone. -/
theorem Shows.closing (h : Shows c sessionId ts screen) :
    Shows c sessionId (ts.cleanupSocket d) (closing ts d sessionId screen) := by
  intro t
  have hterm := h t
  unfold Mirror.closing Sessions.cleanupSocket Sessions.isHostSocket Sessions.getHostSocketId
  unfold ShowsTerminal at hterm ⊢
  cases hx : ts sessionId t with
  | none =>
    rw [hx] at hterm
    simpa using hterm
  | some x =>
    rw [hx] at hterm
    by_cases hd : x.hostSocketId = d
    · simp [hd, Option.filter_some]
    · simpa [hd, Option.filter_some] using hterm

theorem faithful : Faithful feed Cut Shows where
  start := fun _ _ _ hx => by cases hx
  kept hr hcut := (relayed hr).cut hcut
  cleaned hcut := fun s t x hx => hcut s t x (Option.filter_eq_some_iff.1 hx).1
  snapshot := by
    intro c sessionId ts hcut t
    show ShowsTerminal c (ts sessionId t) ((ts sessionId t).map fun x => ⟨x.info, x.backlog⟩)
    cases hx : ts sessionId t with
    | none => rfl
    | some x => exact .inr ⟨_, rfl, rfl, hcut sessionId t x hx⟩
  rooms hr := inRoom_of_receive hr
  silent hr := (relayed hr).silent
  emitted hr he hs _ := (relayed hr).emitted he hs
  closing _ h := h.closing

/-- Whatever joins, messages and departures come before, a viewer in the room has just the terminals that are open,
each with its current shape and permissions and, up to what the service has cut off, its output; only a host's own
terminal may differ, as a host is not sent what it sends. -/
theorem viewers_see_terminals (es : List (Mirror.Event Message)) (w : World Sessions Screen)
    (h : TransSys.run (step feed) (.init feed) es = some w) (c : SocketId) (sessionId : SessionId)
    (hc : w.inRoom c sessionId = true) (terminalId : TerminalId) :
    ShowsTerminal c (w.shared sessionId terminalId) (w.screens c sessionId terminalId) :=
  shows_of_run faithful h hc terminalId

namespace Example

def prints (now : Nat) (data : Units) : Mirror.Event Message := .receive "c1" now (.data "monday" "bash" data)

/-- A shell is opened and prints, a student comes in late, and it prints on. -/
def late : List (Mirror.Event Message) :=
  joined .join Hosts.Example.monday "c1" Hosts.Example.zayd ++
    [.receive "c1" 1 (.open_ "monday" (Hosts.Example.bash none)), prints 2 [36]] ++
    joined .join Hosts.Example.monday "c2" Hosts.Example.bilal ++ [prints 3 [32]]

end Example

open Example in
theorem late_viewer_sees : ∃ w, TransSys.run (step feed) (.init feed) late = some w ∧
    ShowsTerminal "c2" (w.shared "monday" "bash") (w.screens "c2" "monday" "bash") := by
  have hrun : (TransSys.run (step feed) (.init feed) late).map (·.inRoom "c2" "monday") = some true := by
    decide
  obtain ⟨w, hw, hin⟩ := Option.map_eq_some_iff.1 hrun
  exact ⟨w, hw, viewers_see_terminals late w hw "c2" "monday" hin "bash"⟩

end Livetich.Terminal.Mirror
