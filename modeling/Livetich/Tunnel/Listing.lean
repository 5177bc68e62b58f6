/-
The list of ports the sockets of a session are shown: `onJoin` ends with it, and whenever a port is registered,
unregistered or goes with its host, the whole list is emitted again, to the sender too.
-/
import Livetich.Sockets.Mirror
import Livetich.Tunnel.Hosts

namespace Livetich.Tunnel.Listing

open Livetich.Sockets Livetich.Sockets.Mirror

/-- The `ports` map with its keys in the order they came in. -/
structure Listed where
  ports : Ports
  order : List (SessionId × Nat)

/-- `ForwardedPortInfo`. -/
structure ForwardedPortInfo where
  port : Nat
  label : Option String
  targetUrl : String
  previewUrl : String
  registeredAt : Nat
  deriving DecidableEq

/-- The `tunnel:ports` message: the ports of a session. -/
abbrev Shown := List ForwardedPortInfo

section

-- what the environment makes of a session and a port
variable (previewUrl : SessionId → Nat → String)

def ActivePort.info (p : ActivePort) : ForwardedPortInfo :=
  ⟨p.port, p.label, p.targetUrl, previewUrl p.sessionId p.port, p.registeredAt⟩

namespace Listed

/-- The `p.sessionId` of a kept port is the one in its key. -/
def getPortsForSession (l : Listed) (sessionId : SessionId) : Shown :=
  (l.order.filter (·.1 = sessionId)).filterMap fun key => (l.ports key.1 key.2).map (ActivePort.info previewUrl)

/-- A key set again keeps its place. -/
def keyed (l : Listed) (key : SessionId × Nat) : List (SessionId × Nat) :=
  if key ∈ l.order then l.order else l.order ++ [key]

/-- What the message leaves of the order, where its handler accepts it. -/
def order' (l : Listed) : Message → List (SessionId × Nat)
  | .register sessionId port _ => l.keyed (sessionId, port)
  | .unregister sessionId port => l.order.filter (· ≠ (sessionId, port))
  | .join _ | .leave _ | .reply _ => l.order

/-- `cleanupSocket` takes `socketId` for the host of a key. -/
def hosts (l : Listed) (socketId : SocketId) (key : SessionId × Nat) : Bool :=
  (l.ports key.1 key.2).any (·.hostSocketId == socketId)

def cleanupSocket (l : Listed) (socketId : SocketId) : Listed :=
  ⟨l.ports.cleanupSocket socketId, l.order.filter fun key => !l.hosts socketId key⟩

end Listed

@[reducible] def feed : Feed Listed Message Shown Shown where
  start := ⟨fun _ _ => none, []⟩
  receive c now k l m := (fun (k, ports) => (k, ⟨ports, l.order' m⟩)) <$> Tunnel.receive c now k l.ports m
  cleanupSocket := Listed.cleanupSocket
  emits
    | .register sessionId .., l | .unregister sessionId _, l =>
      some ⟨sessionId, false, l.getPortsForSession previewUrl sessionId⟩
    | .join _, _ | .leave _, _ | .reply _, _ => none
  closing l c sessionId shown :=
    if l.order.any fun key => key.1 = sessionId ∧ l.hosts c key then
      (l.cleanupSocket c).getPortsForSession previewUrl sessionId
    else shown
  snapshot sessionId l := l.getPortsForSession previewUrl sessionId
  hear _ shown := shown
  blank := []

/-! ## The list is the current one -/

/-- A socket has the list. -/
def Shows (_ : SocketId) (sessionId : SessionId) (l : Listed) (shown : Shown) : Prop :=
  shown = l.getPortsForSession previewUrl sessionId

variable {l l' : Listed} {c d : SocketId} {k k' : Sock} {now : Nat} {m : Message} {sessionId : SessionId}

/-- The session a message changes the ports of. -/
def changes : Message → Option SessionId
  | .register sessionId .. | .unregister sessionId _ => some sessionId
  | .join _ | .leave _ | .reply _ => none

theorem getPortsForSession_congr (horder : l'.order.filter (·.1 = sessionId) = l.order.filter (·.1 = sessionId))
    (hports : ∀ port, l'.ports sessionId port = l.ports sessionId port) :
    l'.getPortsForSession previewUrl sessionId = l.getPortsForSession previewUrl sessionId := by
  unfold Listed.getPortsForSession
  rw [horder]
  refine List.filterMap_congr fun key hkey => ?_
  have hsession : key.1 = sessionId := by simpa using (List.mem_filter.1 hkey).2
  rw [hsession, hports]

theorem receive_eq_ok (h : (feed previewUrl).receive d now k l m = .ok (k', l')) :
    ∃ ports, Tunnel.receive d now k l.ports m = .ok (k', ports) ∧ l' = ⟨ports, l.order' m⟩ := by
  obtain ⟨⟨k'', ports⟩, hr, hout⟩ := map_eq_ok h
  cases hout
  exact ⟨ports, hr, rfl⟩

theorem onRegister_eq_ok {ports ports' : Ports} {port : Nat} {label : Option String}
    (h : onRegister d now k ports sessionId port label = .ok ports') :
    ports' = ports.registerPort sessionId port label d k.user.sub now := by
  unfold onRegister at h
  split at h
  · cases h
  · split at h
    · cases h
    · cases h
      rfl

theorem onUnregister_eq_ok {ports ports' : Ports} {port : Nat} (h : onUnregister k ports sessionId port = .ok ports') :
    ports' = ports.unregisterPort sessionId port := by
  unfold onUnregister at h
  split at h
  · cases h
  · cases h
    rfl

/-- An accepted message changes the ports of one session at most. -/
theorem received (h : (feed previewUrl).receive d now k l m = .ok (k', l')) (hs : changes m ≠ some sessionId) :
    l'.getPortsForSession previewUrl sessionId = l.getPortsForSession previewUrl sessionId := by
  obtain ⟨ports, hr, rfl⟩ := receive_eq_ok previewUrl h
  cases m with
  | join s =>
    cases hr
    rfl
  | leave s =>
    cases hr
    rfl
  | reply r =>
    cases hr
    rfl
  | register s port label =>
    have hne : s ≠ sessionId := fun heq => hs (congrArg some heq)
    obtain ⟨ports', hports, hout⟩ := map_eq_ok hr
    cases hout
    obtain rfl := onRegister_eq_ok hports
    apply getPortsForSession_congr
    · show (l.keyed (s, port)).filter _ = _
      unfold Listed.keyed
      split
      · rfl
      · simp [List.filter_append, hne]
    · exact fun p => Hosts.set_ne fun ⟨hsame, _⟩ => hne hsame.symm
  | unregister s port =>
    have hne : s ≠ sessionId := fun heq => hs (congrArg some heq)
    obtain ⟨ports', hports, hout⟩ := map_eq_ok hr
    cases hout
    obtain rfl := onUnregister_eq_ok hports
    apply getPortsForSession_congr
    · show (l.order.filter (· ≠ (s, port))).filter _ = _
      rw [List.filter_filter]
      refine List.filter_congr fun key _ => ?_
      -- a key of this session is not the one that goes
      by_cases hkey : key.1 = sessionId
      · have hkey' : key ≠ (s, port) := fun heq => hne (by rw [← hkey, heq])
        simp [hkey, hkey']
      · simp [hkey]
    · exact fun p => Hosts.set_ne fun ⟨hsame, _⟩ => hne hsame.symm

theorem inRoom_of_receive (h : (feed previewUrl).receive d now k l m = .ok (k', l'))
    (hin : k'.inRoom sessionId = true) : k.inRoom sessionId = true := by
  obtain ⟨ports, hr, rfl⟩ := receive_eq_ok previewUrl h
  cases m with
  | join s =>
    cases hr
    exact hin
  | leave s =>
    cases hr
    exact inRoom_of_leave hin
  | reply r =>
    cases hr
    exact hin
  | register s port label =>
    obtain ⟨ports', -, hout⟩ := map_eq_ok hr
    cases hout
    exact hin
  | unregister s port =>
    obtain ⟨ports', -, hout⟩ := map_eq_ok hr
    cases hout
    exact hin

/-- A socket that hosts nothing in a session takes nothing of its list along. -/
theorem getPortsForSession_cleanup (h : ¬l.order.any (fun key => key.1 = sessionId ∧ l.hosts d key) = true) :
    (l.cleanupSocket d).getPortsForSession previewUrl sessionId = l.getPortsForSession previewUrl sessionId := by
  have hstay : ∀ key ∈ l.order, key.1 = sessionId → l.hosts d key = false := by
    intro key hkey hs
    by_contra hhosts
    exact h (List.any_eq_true.2 ⟨key, hkey, by simp [hs, hhosts]⟩)
  unfold Listed.getPortsForSession Listed.cleanupSocket
  dsimp only
  have horder : (l.order.filter fun key => !l.hosts d key).filter (·.1 = sessionId) =
      l.order.filter (·.1 = sessionId) := by
    rw [List.filter_filter]
    refine List.filter_congr fun key hkey => ?_
    by_cases hs : key.1 = sessionId
    · simp [hs, hstay key hkey hs]
    · simp [hs]
  rw [horder]
  refine List.filterMap_congr fun key hkey => ?_
  obtain ⟨hmem, hs⟩ := List.mem_filter.1 hkey
  have hstays := hstay key hmem (by simpa using hs)
  unfold Listed.hosts at hstays
  unfold Ports.cleanupSocket
  cases hp : l.ports key.1 key.2 with
  | none => rfl
  | some p =>
    rw [hp, Option.any_some] at hstays
    simp [Option.filter_some, bne, hstays]

theorem faithful : Faithful (feed previewUrl) (fun _ => True) (Shows previewUrl) where
  start := trivial
  kept _ _ := trivial
  cleaned _ := trivial
  snapshot _ := rfl
  rooms hr hin := inRoom_of_receive previewUrl hr hin
  silent := by
    intro d now k k' l l' m c sessionId screen hr hpassed h
    refine h.trans (received previewUrl hr fun hs => ?_).symm
    -- the list goes to the whole room
    cases m <;> cases hs <;> cases (hpassed _ rfl rfl).1
  emitted := by
    intro d now k k' l l' m c sessionId screen e hr he hs _ h
    cases m <;> cases he <;> cases hs <;> rfl
  closing := by
    intro d c l sessionId screen hne h
    show (if _ then _ else _) = _
    split
    · rfl
    · rename_i hnone
      exact h.trans (getPortsForSession_cleanup previewUrl hnone).symm

/-- Whatever joins, messages and departures come before, what a socket in the room was last sent is the list of the
ports that are forwarded now. -/
theorem sockets_see_ports (es : List (Mirror.Event Message)) (w : World Listed Shown)
    (h : TransSys.run (step (feed previewUrl)) (.init (feed previewUrl)) es = some w) (c : SocketId)
    (sessionId : SessionId) (hc : w.inRoom c sessionId = true) :
    w.screens c sessionId = w.shared.getPortsForSession previewUrl sessionId :=
  shows_of_run (faithful previewUrl) h hc

end

namespace Example

def hafsa : JwtPayload := ⟨"hafsa", .instructor, "Hafsa", some "acme", none, none⟩

def umar : JwtPayload := ⟨"umar", .student, "Umar", some "acme", none, none⟩

def tuesday : LiveSession := ⟨"tuesday", .live, ⟨"web-2", some "hafsa", some "acme", some ["code-instruction"]⟩⟩

/-- Two ports are forwarded around a student's joining, and the first is forwarded again. -/
def forwarded : List (Mirror.Event Message) :=
  joined .join tuesday "c1" hafsa ++ [.receive "c1" 1 (.register "tuesday" 3000 none)] ++
    joined .join tuesday "c2" umar ++
    [.receive "c1" 2 (.register "tuesday" 5173 (some "docs")), .receive "c1" 3 (.register "tuesday" 3000 none)]

def localUrl (sessionId : SessionId) (port : Nat) : String := s!"http://{sessionId}-{port}.localhost:3000/"

end Example

open Example in
theorem student_sees_ports : ∃ w, TransSys.run (step (feed localUrl)) (.init (feed localUrl)) forwarded = some w ∧
    w.screens "c2" "tuesday" = w.shared.getPortsForSession localUrl "tuesday" := by
  have hrun : (TransSys.run (step (feed localUrl)) (.init (feed localUrl)) forwarded).map
      (·.inRoom "c2" "tuesday") = some true := by
    decide
  obtain ⟨w, hw, hin⟩ := Option.map_eq_some_iff.1 hrun
  exact ⟨w, hw, sockets_see_ports localUrl forwarded w hw "c2" "tuesday" hin⟩

end Livetich.Tunnel.Listing
