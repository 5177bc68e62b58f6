/-
The WebSockets of previews: a browser's socket is bridged to the host that its port is forwarded by, and frames go both
ways as messages of `/tunnel`. Either side may go at any time, and hosts send what they like about any bridge.

What a host has sent of a bridge, and a browser through it, is noted beside.
-/
import Livetich.Js.Units
import Livetich.Tunnel.Listing

namespace Livetich.Tunnel.Bridges

open TransSys Livetich.Sockets Livetich.Js

abbrev BridgeId := String

/-- `data` and `isBinary`, with `data` as it comes out of base64. -/
structure Frame where
  data : List UInt8
  isBinary : Bool
  deriving DecidableEq

/-! ## Closing a socket -/

/-- A high and a low half one after the other make one character. -/
def isPair (u v : UInt16) : Bool := 0xD800 ≤ u && u < 0xDC00 && 0xDC00 ≤ v && v < 0xE000

/-- The bytes of one unit in UTF-8, where it is not half of a character. -/
def width (u : UInt16) : Nat := if u < 0x80 then 1 else if u < 0x800 then 2 else 3

/-- `Buffer.byteLength`. -/
def byteLength : List UInt16 → Nat
  | [] => 0
  | [u] => width u
  | u :: v :: rest => if isPair u v then 4 + byteLength rest else width u + byteLength (v :: rest)

inductive ReadyState
  | open_ | closing | closed
  deriving DecidableEq

/-- The codes `safeCloseCode` has by name. -/
def closeCodes : List Number := [1000, 1001, 1002, 1003, 1007, 1008, 1009, 1010, 1011, 1012, 1013, 1014].map .ofInt

def isPrivate : Number → Bool
  | .finite q => 3000 ≤ q && q ≤ 4999
  | _ => false

def safeCloseCode (code : Number) : Number := if closeCodes.contains code || isPrivate code then code else .ofInt 1000

/-- The package `ws`: `close` throws at some codes and reasons, and leaves the socket in some state then. It takes the
codes above, and reasons of up to 123 bytes. -/
structure Ws where
  takes : Number → List UInt16 → Bool
  refused : ReadyState
  takes_code : ∀ {code reason}, (closeCodes.contains code || isPrivate code) = true → byteLength reason ≤ 123 →
    takes code reason = true

theorem safeCloseCode_taken (ws : Ws) (code : Number) {reason : List UInt16} (h : byteLength reason ≤ 123) :
    ws.takes (safeCloseCode code) reason = true := by
  refine ws.takes_code ?_ h
  unfold safeCloseCode
  split
  · assumption
  · rfl

/-! ## One bridge -/

/-- What the host of a bridge is sent of it: `tunnel:ws:connect`, `message` and `close`. -/
inductive News
  | connect (port : Nat) (path : String)
  | message (frame : Frame)
  | close (code : Number) (reason : List UInt16)
  deriving DecidableEq

/-- A browser's socket. -/
structure Bridge where
  host : SocketId
  /-- Whether `previewSockets` has it. -/
  bridged : Bool
  state : ReadyState
  /-- The close frame sent to the browser. -/
  closeFrame : Option (Number × List UInt16)
  /-- The frames sent to the browser. -/
  frames : List Frame
  /-- What the host was sent. -/
  heard : List News
  /-- What the host has sent. -/
  said : List Frame
  port : Nat
  path : String
  /-- What the browser has sent. -/
  told : List Frame
  /-- How the browser's socket closed. -/
  ended : Option (Number × List UInt16)

namespace Bridge

/-- `previewSockets.set` and the first message to the host. -/
def connect (host : SocketId) (port : Nat) (path : String) : Bridge :=
  ⟨host, true, .open_, none, [], [.connect port path], [], port, path, [], none⟩

/-- `socket.close`. -/
def close (ws : Ws) (b : Bridge) (code : Number) (reason : List UInt16) : Bridge :=
  if b.state = .open_ then
    if ws.takes code reason then { b with state := .closing, closeFrame := some (code, reason) }
    else { b with state := ws.refused }
  else b

/-- `previewSockets.delete`. -/
def delete (b : Bridge) : Bridge := { b with bridged := false }

/-- A message to the host's room, which the host is in while it is connected. -/
def emit (b : Bridge) (up : Bool) (news : News) : Bridge := if up then { b with heard := b.heard ++ [news] } else b

def isOf (b : Bridge) (c : SocketId) : Bool := b.bridged && b.host == c

def wsFailed : List UInt16 := textUnits "The instructor app could not open this WebSocket"

def tooFast : List UInt16 := textUnits "Preview is sending data too quickly"

def disconnected : List UInt16 := textUnits "Instructor tunnel disconnected"

def failed : List UInt16 := textUnits "Preview WebSocket failed"

def onPreviewWsReady (ws : Ws) (b : Bridge) (c : SocketId) (ok : Bool) : Bridge :=
  if !b.isOf c || ok then b else (b.close ws (.ofInt 1011) wsFailed).delete

def onPreviewWsMessage (ws : Ws) (b : Bridge) (c : SocketId) (frame : Frame) (bufferedAmount : Nat) : Bridge :=
  if !b.isOf c || b.state ≠ .open_ then b
  else if bufferedAmount > 1024 * 1024 then (b.close ws (.ofInt 1013) tooFast).delete
  else { b with frames := b.frames ++ [frame] }

/-- The entry goes first. -/
def onPreviewWsClosed (ws : Ws) (b : Bridge) (c : SocketId) (code : Number) (reason : List UInt16) : Bridge :=
  if !b.isOf c then b else b.delete.close ws (safeCloseCode code) (reason.take 120)

/-- `handleDisconnect`, for one bridge. -/
def handleDisconnect (ws : Ws) (b : Bridge) (c : SocketId) : Bridge :=
  if b.isOf c then (b.close ws (.ofInt 1011) disconnected).delete else b

/-- The socket's `message` event. -/
def onMessage (b : Bridge) (up : Bool) (frame : Frame) : Bridge :=
  { b with told := b.told ++ [frame] }.emit up (.message frame)

/-- The browser begins to close, and the package answers with a close frame. -/
def onConclude (b : Bridge) (code : Number) (reason : List UInt16) : Bridge :=
  if b.state = .open_ then { b with state := .closing, closeFrame := some (code, reason) } else b

/-- The socket's `error` event. -/
def onError (ws : Ws) (b : Bridge) : Bridge := b.close ws (.ofInt 1011) failed

/-- The socket's `close` event, the last one. -/
def onClose (b : Bridge) (up : Bool) (code : Number) (reason : List UInt16) : Bridge :=
  { b with state := .closed, ended := some (code, reason) }.delete.emit up
    (.close (safeCloseCode code) (reason.take 120))

/-- What of its messages a host is noted to have sent. -/
def note (b : Bridge) (c : SocketId) (frame : Frame) : Bridge :=
  if b.host = c then { b with said := b.said ++ [frame] } else b

end Bridge

/-! ## All of them -/

structure World where
  tunnel : Hosts.World
  bridges : BridgeId → Option Bridge

def init : World := ⟨Hosts.init, fun _ => none⟩

inductive Event
  /-- Anything else that happens on `/tunnel`. -/
  | tunnel (e : Hosts.Event)
  /-- `acceptUpgrade` lets a browser in; the id is drawn anew. -/
  | upgrade (bridgeId : BridgeId) (sessionId : SessionId) (port : Nat) (path : String)
  | wsReady (c : SocketId) (bridgeId : BridgeId) (ok : Bool)
  /-- `bufferedAmount` is what the browser's socket has not sent off. -/
  | wsMessage (c : SocketId) (bridgeId : BridgeId) (frame : Frame) (bufferedAmount : Nat)
  | wsClosed (c : SocketId) (bridgeId : BridgeId) (code : Number) (reason : List UInt16)
  | message (bridgeId : BridgeId) (frame : Frame)
  | conclude (bridgeId : BridgeId) (code : Number) (reason : List UInt16)
  | error (bridgeId : BridgeId)
  | close (bridgeId : BridgeId) (code : Number) (reason : List UInt16)

namespace World

def up (w : World) (c : SocketId) : Bool := (w.tunnel.socks c).isSome

def onBridge (w : World) (bridgeId : BridgeId) (f : Bridge → Bridge) : World :=
  { w with bridges := Function.update w.bridges bridgeId ((w.bridges bridgeId).map f) }

/-- `handleDisconnect` goes through the bridges. -/
def after (ws : Ws) (w : World) (e : Hosts.Event) (tunnel : Hosts.World) : World where
  tunnel := tunnel
  bridges := match e with
    | .disconnect c => fun bridgeId => (w.bridges bridgeId).map (·.handleDisconnect ws c)
    | _ => w.bridges

/-- A message of a connected socket about a bridge. -/
def fromHost (w : World) (c : SocketId) (bridgeId : BridgeId) (f : Bridge → Bridge) : Option World :=
  if w.up c then some (w.onBridge bridgeId f) else none

/-- An event of a browser's socket, which has none after `close`. -/
def ofBrowser (w : World) (bridgeId : BridgeId) (f : Bool → Bridge → Bridge) : Option World :=
  match w.bridges bridgeId with
  | none => none
  | some b => if b.state = .closed then none else some (w.onBridge bridgeId (f (w.up b.host)))

end World

def step (ws : Ws) (w : World) : Event → Option World
  | .tunnel e => (Hosts.step w.tunnel e).map (w.after ws e)
  | .upgrade bridgeId sessionId port path =>
    if (w.bridges bridgeId).isSome then none
    else some { w with bridges := Function.update w.bridges bridgeId ((w.tunnel.ports sessionId port).map fun a =>
      .connect a.hostSocketId port path) }
  | .wsReady c bridgeId ok => w.fromHost c bridgeId (·.onPreviewWsReady ws c ok)
  | .wsMessage c bridgeId frame bufferedAmount =>
    w.fromHost c bridgeId fun b => (b.note c frame).onPreviewWsMessage ws c frame bufferedAmount
  | .wsClosed c bridgeId code reason => w.fromHost c bridgeId (·.onPreviewWsClosed ws c code reason)
  | .message bridgeId frame => w.ofBrowser bridgeId fun up b => b.onMessage up frame
  | .conclude bridgeId code reason => w.ofBrowser bridgeId fun _ b => b.onConclude code reason
  | .error bridgeId => w.ofBrowser bridgeId fun _ b => b.onError ws
  | .close bridgeId code reason => w.ofBrowser bridgeId fun up b => b.onClose up code reason

/-! ## What a step of the tunnel does to its sockets and ports -/

variable {ws : Ws} {t t' : Hosts.World} {w w' : World}

/-- A socket comes with a new id, or goes with its ports, or the sockets stay and forward new ports at most. -/
inductive Did (t t' : Hosts.World) : Hosts.Event → Prop
  | connect (c : SocketId) (user : JwtPayload) : c ∉ t.ids → t'.ids = c :: t.ids →
    t'.socks = Function.update t.socks c (some (.new user)) → t'.ports = t.ports → Did t t' (.connect c user)
  | disconnect (c : SocketId) : (t.socks c).isSome = true → t'.ids = t.ids →
    t'.socks = Function.update t.socks c none → t'.ports = t.ports.cleanupSocket c → Did t t' (.disconnect c)
  | stay (e : Hosts.Event) : (∀ c, e ≠ .disconnect c) → t'.ids = t.ids →
    (∀ c, (t'.socks c).isSome = (t.socks c).isSome) →
    (∀ s p a, t'.ports s p = some a → t.ports s p = some a ∨ (t.socks a.hostSocketId).isSome = true) → Did t t' e

theorem isSome_setSock {c : SocketId} {k k' : Sock} (hk : t.socks c = some k) (d : SocketId) :
    ((t.setSock c (some k')).socks d).isSome = (t.socks d).isSome := by
  by_cases hd : d = c
  · subst hd
    rw [hk]
    unfold Hosts.World.setSock
    simp
  · exact congrArg Option.isSome (Function.update_of_ne hd ..)

/-- A port that a message adds is the sender's. -/
theorem port_of_receive {c : SocketId} {now : Nat} {k k' : Sock} {ports ports' : Ports} {m : Message}
    (h : Tunnel.receive c now k ports m = .ok (k', ports')) {s : SessionId} {p : Nat} {a : ActivePort}
    (ha : ports' s p = some a) : ports s p = some a ∨ a.hostSocketId = c := by
  cases m with
  | join sessionId =>
    cases h
    exact .inl ha
  | leave sessionId =>
    cases h
    exact .inl ha
  | reply r =>
    cases h
    exact .inl ha
  | register sessionId port label =>
    obtain ⟨ports'', hports, hout⟩ := map_eq_ok h
    cases hout
    obtain rfl := Listing.onRegister_eq_ok hports
    rcases Lib.put₂_eq ha with ⟨-, -, hnew⟩ | ⟨-, hold⟩
    · cases hnew
      exact .inr rfl
    · exact .inl hold
  | unregister sessionId port =>
    obtain ⟨ports'', hports, hout⟩ := map_eq_ok h
    cases hout
    obtain rfl := Listing.onUnregister_eq_ok hports
    rcases Lib.put₂_eq ha with ⟨-, -, hnew⟩ | ⟨-, hold⟩
    · cases hnew
    · exact .inl hold

theorem did {e : Hosts.Event} (h : Hosts.step t e = some t') : Did t t' e := by
  cases e with
  | connect c user =>
    have h' : (if t.ids.contains c then none else some _) = some t' := h
    split at h'
    · cases h'
    · rename_i hnew
      cases h'
      exact .connect c user (by simpa using hnew) rfl rfl rfl
  | settle c permitted =>
    obtain ⟨k, hk, rfl⟩ := Option.map_eq_some_iff.1 h
    exact .stay _ (by simp) rfl (isSome_setSock hk) fun _ _ _ ha => .inl ha
  | receive c now message =>
    obtain ⟨k, hk, rfl⟩ := Option.map_eq_some_iff.1 h
    cases hr : Tunnel.receive c now k t.ports message with
    | error f => exact .stay _ (by simp) rfl (fun _ => rfl) fun _ _ _ ha => .inl ha
    | ok r =>
      refine .stay _ (by simp) rfl (isSome_setSock hk) fun s p a ha => ?_
      rcases port_of_receive hr ha with hold | hhost
      · exact .inl hold
      · exact .inr (by rw [hhost, hk]; rfl)
  | respond c reqId frame =>
    obtain ⟨k, hk, rfl⟩ := Option.map_eq_some_iff.1 h
    exact .stay _ (by simp) rfl (fun _ => rfl) fun _ _ _ ha => .inl ha
  | answer c i reads =>
    obtain ⟨k, hk, rfl⟩ := Option.map_eq_some_iff.1 h
    exact .stay _ (by simp) rfl (isSome_setSock hk) fun _ _ _ ha => .inl ha
  | disconnect c =>
    obtain ⟨k, hk, rfl⟩ := Option.map_eq_some_iff.1 h
    exact .disconnect c (by rw [hk]; rfl) rfl rfl rfl
  | forward reqId sessionId port =>
    have h' : (if (t.requests reqId).isSome then none else some _) = some t' := h
    split at h'
    · cases h'
    · cases h'
      exact .stay _ (by simp) rfl (fun _ => rfl) fun _ _ _ ha => .inl ha
  | timeout reqId =>
    cases h
    exact .stay _ (by simp) rfl (fun _ => rfl) fun _ _ _ ha => .inl ha
  | close reqId =>
    cases h
    exact .stay _ (by simp) rfl (fun _ => rfl) fun _ _ _ ha => .inl ha

/-! ## The host of a bridge -/

namespace Bridge

variable {b : Bridge} {up : Bool} {c : SocketId} {code : Number} {reason : List UInt16} {frame : Frame}

@[simp] theorem host_close : (b.close ws code reason).host = b.host := by
  unfold Bridge.close
  split
  · split <;> rfl
  · rfl

@[simp] theorem host_delete : b.delete.host = b.host := rfl

@[simp] theorem host_emit {news : News} : (b.emit up news).host = b.host := by
  unfold emit
  split <;> rfl

@[simp] theorem host_onPreviewWsReady {ok : Bool} : (b.onPreviewWsReady ws c ok).host = b.host := by
  unfold onPreviewWsReady
  split <;> simp

@[simp] theorem host_note : (b.note c frame).host = b.host := by
  unfold note
  split <;> rfl

@[simp] theorem host_onPreviewWsMessage {bufferedAmount : Nat} :
    (b.onPreviewWsMessage ws c frame bufferedAmount).host = b.host := by
  unfold onPreviewWsMessage
  split
  · rfl
  · split <;> simp

@[simp] theorem host_onPreviewWsClosed : (b.onPreviewWsClosed ws c code reason).host = b.host := by
  unfold onPreviewWsClosed
  split <;> simp

@[simp] theorem host_handleDisconnect : (b.handleDisconnect ws c).host = b.host := by
  unfold Bridge.handleDisconnect
  split <;> simp

@[simp] theorem host_onMessage : (b.onMessage up frame).host = b.host := by
  unfold onMessage
  simp

@[simp] theorem host_onConclude : (b.onConclude code reason).host = b.host := by
  unfold onConclude
  split <;> rfl

@[simp] theorem host_onError : (b.onError ws).host = b.host := host_close

@[simp] theorem host_onClose : (b.onClose up code reason).host = b.host := by
  unfold onClose
  simp

end Bridge

/-! ## One bridge is a pipe -/

namespace Bridge

/-- The messages due to the host: the first one, the browser's frames in order, and the last one. -/
def news (b : Bridge) : List News :=
  .connect b.port b.path :: b.told.map .message ++
    (b.ended.map fun (code, reason) => .close (safeCloseCode code) (reason.take 120)).toList

/-- What is kept of a bridge, whose host is connected or not. -/
structure Ok (up : Bool) (b : Bridge) : Prop where
  frames : b.frames <+: b.said
  whole : b.bridged = true → b.state = .open_ → b.frames = b.said
  heard : up = true → b.heard = b.news
  ended : b.ended ≠ none → b.state = .closed

variable {b : Bridge} {up : Bool} {c : SocketId} {code : Number} {reason : List UInt16} {frame : Frame}

theorem Ok.connect {host : SocketId} {port : Nat} {path : String} : Ok up (connect host port path) :=
  ⟨List.prefix_rfl, fun _ _ => rfl, fun _ => rfl, fun h => absurd rfl h⟩

theorem Ok.mono {up' : Bool} (h : Ok up b) (hup : up' = true → up = true) : Ok up' b :=
  { h with heard := fun hu => h.heard (hup hu) }

theorem Ok.delete (h : Ok up b) : Ok up b.delete := { h with whole := fun hb => by cases hb }

/-- A socket that is open has not closed. -/
theorem Ok.ended_eq (h : Ok up b) (hs : b.state ≠ .closed) : b.ended = none := by
  by_contra hended
  exact hs (h.ended hended)

theorem Ok.conclude (h : Ok up b) : Ok up (b.onConclude code reason) := by
  unfold onConclude
  split
  · rename_i hopen
    have hended : b.ended = none := h.ended_eq (by rw [hopen]; exact ReadyState.noConfusion)
    exact { h with whole := fun _ hs => (nomatch hs), ended := fun hne => absurd hended hne }
  · exact h

/-- Only a socket that has lost its bridge may be left open by `close`. -/
theorem Ok.close (h : Ok up b) (hok : ws.takes code reason = true ∨ b.bridged = false) :
    Ok up (b.close ws code reason) := by
  unfold Bridge.close
  split
  · rename_i hopen
    have hended : b.ended = none := h.ended_eq (by rw [hopen]; exact ReadyState.noConfusion)
    split
    · exact { h with whole := fun _ hs => (nomatch hs), ended := fun hne => absurd hended hne }
    · rename_i hrefused
      have hgone := hok.resolve_left hrefused
      refine { h with whole := fun hb => ?_, ended := fun hne => absurd hended hne }
      rw [show b.bridged = true from hb] at hgone
      cases hgone
  · exact h

/-- The closing codes and reasons of the gateway itself. -/
theorem taken (ws : Ws) : ws.takes (.ofInt 1011) wsFailed = true ∧ ws.takes (.ofInt 1013) tooFast = true ∧
    ws.takes (.ofInt 1011) disconnected = true ∧ ws.takes (.ofInt 1011) failed = true :=
  ⟨ws.takes_code rfl (by decide), ws.takes_code rfl (by decide), ws.takes_code rfl (by decide),
    ws.takes_code rfl (by decide)⟩

theorem delete_close (b : Bridge) : (b.close ws code reason).delete = b.delete.close ws code reason := by
  unfold Bridge.close
  split
  · rename_i hopen
    rw [if_pos (show b.delete.state = .open_ from hopen)]
    split <;> rfl
  · rename_i hnot
    rw [if_neg (show ¬b.delete.state = .open_ from hnot)]

theorem Ok.ready (h : Ok up b) {ok : Bool} : Ok up (b.onPreviewWsReady ws c ok) := by
  unfold onPreviewWsReady
  split
  · exact h
  · rw [delete_close]
    exact h.delete.close (.inr rfl)

theorem Ok.hostClosed (h : Ok up b) : Ok up (b.onPreviewWsClosed ws c code reason) := by
  unfold onPreviewWsClosed
  split
  · exact h
  · exact h.delete.close (.inr rfl)

theorem Ok.gone (h : Ok up b) : Ok up (b.handleDisconnect ws c) := by
  unfold Bridge.handleDisconnect
  split
  · rw [delete_close]
    exact h.delete.close (.inr rfl)
  · exact h

theorem Ok.failed (h : Ok up b) : Ok up (b.onError ws) := h.close (.inl (taken ws).2.2.2)

/-- A frame of the host goes on, or nothing of the host does from then on. -/
theorem Ok.hostMessage (h : Ok up b) {bufferedAmount : Nat} :
    Ok up ((b.note c frame).onPreviewWsMessage ws c frame bufferedAmount) := by
  by_cases hhost : b.host = c
  · have hnote : b.note c frame = { b with said := b.said ++ [frame] } := if_pos hhost
    have hlater : b.frames <+: b.said ++ [frame] := h.frames.trans (List.prefix_append ..)
    rw [hnote]
    unfold onPreviewWsMessage
    split
    · rename_i hskip
      refine { h with frames := hlater, whole := fun hb hs => ?_ }
      -- a bridged and open socket is not passed over
      have hb' : b.bridged = true := hb
      have hs' : b.state = .open_ := hs
      simp [isOf, hb', hs', hhost] at hskip
    · split
      · have hcut : Ok up { b with said := b.said ++ [frame], bridged := false } :=
          { h with frames := hlater, whole := fun hb => (nomatch hb) }
        rw [delete_close]
        exact hcut.close (.inr rfl)
      · rename_i hgo _
        have hopen : b.bridged = true ∧ b.state = .open_ := by simpa [isOf, hhost] using hgo
        have hsame : b.frames ++ [frame] = b.said ++ [frame] := by rw [h.whole hopen.1 hopen.2]
        exact { h with frames := hsame ▸ List.prefix_rfl, whole := fun _ _ => hsame }
  · have hnote : b.note c frame = b := if_neg hhost
    rw [hnote]
    unfold onPreviewWsMessage
    rw [if_pos (by simp [isOf, hhost])]
    exact h

theorem Ok.message (h : Ok up b) (hs : b.state ≠ .closed) : Ok up (b.onMessage up frame) := by
  have hended := h.ended_eq hs
  unfold onMessage emit
  cases up with
  | false => exact { h with heard := fun hu => (nomatch hu) }
  | true =>
    refine { h with heard := fun _ => ?_ }
    simp [news, h.heard rfl, hended]

theorem Ok.closed (h : Ok up b) (hs : b.state ≠ .closed) : Ok up (b.onClose up code reason) := by
  have hended := h.ended_eq hs
  unfold onClose emit
  cases up with
  | false => exact ⟨h.frames, fun hb => (nomatch hb), fun hu => (nomatch hu), fun _ => rfl⟩
  | true =>
    refine ⟨h.frames, fun hb => (nomatch hb), fun _ => ?_, fun _ => rfl⟩
    simp [news, Bridge.delete, h.heard rfl, hended]

/-! ### No browser is left alone -/

/-- A socket that has been sent no close frame is bridged, and the host is there. -/
def Served (up : Bool) (b : Bridge) : Prop :=
  b.state ≠ .closed → b.closeFrame = none → b.state = .open_ ∧ b.bridged = true ∧ up = true

theorem Served.connect {host : SocketId} {port : Nat} {path : String} : Served true (connect host port path) :=
  fun _ _ => ⟨rfl, rfl, rfl⟩

/-- An open socket is sent the close frame. -/
theorem close_left (htaken : ws.takes code reason = true) (hs : (b.close ws code reason).state ≠ .closed)
    (hnone : (b.close ws code reason).closeFrame = none) :
    b.state ≠ .open_ ∧ b.state ≠ .closed ∧ b.closeFrame = none := by
  unfold Bridge.close at hs hnone
  rw [if_pos htaken] at hs hnone
  split at hnone
  · cases hnone
  · rename_i hnot
    rw [if_neg hnot] at hs
    exact ⟨hnot, hs, hnone⟩

/-- So it is served, with or without the bridge. -/
theorem Served.close {up' : Bool} (h : Served up b) (htaken : ws.takes code reason = true) :
    Served up' (b.delete.close ws code reason) := by
  intro hs hnone
  obtain ⟨hnot, hs, hnone⟩ := close_left htaken hs hnone
  exact absurd (h hs hnone).1 hnot

theorem Served.conclude (h : Served up b) : Served up (b.onConclude code reason) := by
  intro hs hnone
  unfold onConclude at hs hnone
  split at hnone
  · cases hnone
  · rename_i hnot
    rw [if_neg hnot] at hs
    exact absurd (h hs hnone).1 hnot

theorem Served.failed (h : Served up b) : Served up (b.onError ws) := by
  intro hs hnone
  obtain ⟨hnot, hs, hnone⟩ := close_left (taken ws).2.2.2 hs hnone
  exact absurd (h hs hnone).1 hnot

theorem Served.ready (h : Served up b) {ok : Bool} : Served up (b.onPreviewWsReady ws c ok) := by
  unfold onPreviewWsReady
  split
  · exact h
  · rw [delete_close]
    exact h.close (taken ws).1

theorem Served.hostMessage (h : Served up b) {bufferedAmount : Nat} :
    Served up ((b.note c frame).onPreviewWsMessage ws c frame bufferedAmount) := by
  have hnote : Served up (b.note c frame) := by
    unfold note
    split <;> exact h
  unfold onPreviewWsMessage
  split
  · exact hnote
  · split
    · rw [delete_close]
      exact hnote.close (taken ws).2.1
    · exact hnote

theorem Served.hostClosed (h : Served up b) (hreason : byteLength (reason.take 120) ≤ 123) :
    Served up (b.onPreviewWsClosed ws c code reason) := by
  unfold onPreviewWsClosed
  split
  · exact h
  · exact h.close (safeCloseCode_taken ws code hreason)

/-- The host goes, and closes what it had. -/
theorem Served.gone (h : Served up b) : Served (up && b.host != c) (b.handleDisconnect ws c) := by
  unfold Bridge.handleDisconnect
  split
  · rw [delete_close]
    exact h.close (taken ws).2.2.1
  · rename_i hnot
    intro hs hnone
    obtain ⟨hopen, hbridged, rfl⟩ := h hs hnone
    have hhost : b.host ≠ c := by simpa [isOf, hbridged] using hnot
    exact ⟨hopen, hbridged, by simpa using hhost⟩

theorem Served.message (h : Served up b) : Served up (b.onMessage up frame) := by
  unfold onMessage emit
  split <;> exact h

theorem Served.closed : Served up (b.onClose up code reason) := by
  intro hs
  refine absurd ?_ hs
  unfold onClose emit
  split <;> rfl

end Bridge

/-! ## Whole runs -/

/-- What every event of a bridge keeps, where its host closes with reasons that fit. -/
structure Kept (ws : Ws) (Q : Bool → Bridge → Prop) (fits : List UInt16 → Prop) : Prop where
  connect : ∀ {host port path}, Q true (.connect host port path)
  ready : ∀ {up b c ok}, Q up b → Q up (b.onPreviewWsReady ws c ok)
  hostMessage : ∀ {up b c frame bufferedAmount}, Q up b →
    Q up ((b.note c frame).onPreviewWsMessage ws c frame bufferedAmount)
  hostClosed : ∀ {up b c code reason}, Q up b → fits reason → Q up (b.onPreviewWsClosed ws c code reason)
  gone : ∀ {up b c}, Q up b → Q (up && b.host != c) (b.handleDisconnect ws c)
  message : ∀ {up b frame}, Q up b → b.state ≠ .closed → Q up (b.onMessage up frame)
  conclude : ∀ {up b code reason}, Q up b → Q up (b.onConclude code reason)
  failed : ∀ {up b}, Q up b → Q up (b.onError ws)
  closed : ∀ {up b code reason}, Q up b → b.state ≠ .closed → Q up (b.onClose up code reason)

theorem kept_ok : Kept ws Bridge.Ok fun _ => True where
  connect := .connect
  ready h := h.ready
  hostMessage h := h.hostMessage
  hostClosed h _ := h.hostClosed
  gone h := h.gone.mono fun hup => (Bool.and_eq_true_iff.1 hup).1
  message h := h.message
  conclude h := h.conclude
  failed h := h.failed
  closed h := h.closed

theorem kept_served : Kept ws Bridge.Served fun reason => byteLength (reason.take 120) ≤ 123 where
  connect := .connect
  ready h := h.ready
  hostMessage h := h.hostMessage
  hostClosed h hreason := h.hostClosed hreason
  gone h := h.gone
  message h _ := h.message
  conclude h := h.conclude
  failed h := h.failed
  closed _ _ := .closed

variable {Q : Bool → Bridge → Prop} {fits : List UInt16 → Prop}

/-- Ports have connected hosts, and connected sockets and hosts of bridges have ids that are taken. -/
structure Inv (Q : Bool → Bridge → Prop) (w : World) : Prop where
  ports : ∀ sessionId port a, w.tunnel.ports sessionId port = some a → w.up a.hostSocketId = true
  ids : ∀ c, w.up c = true → c ∈ w.tunnel.ids
  hosts : ∀ bridgeId b, w.bridges bridgeId = some b → b.host ∈ w.tunnel.ids
  bridges : ∀ bridgeId b, w.bridges bridgeId = some b → Q (w.up b.host) b

theorem Inv.onBridge (h : Inv Q w) {bridgeId : BridgeId} {f : Bridge → Bridge} (hhost : ∀ b, (f b).host = b.host)
    (hf : ∀ b, w.bridges bridgeId = some b → Q (w.up b.host) (f b)) : Inv Q (w.onBridge bridgeId f) := by
  have hcases : ∀ {i b}, (w.onBridge bridgeId f).bridges i = some b →
      ∃ b₀, w.bridges i = some b₀ ∧ b.host = b₀.host ∧ Q (w.up b.host) b := by
    intro i b hb
    have hb : Function.update w.bridges bridgeId ((w.bridges bridgeId).map f) i = some b := hb
    by_cases hi : i = bridgeId
    · subst hi
      rw [Function.update_self] at hb
      obtain ⟨b₀, hb₀, rfl⟩ := Option.map_eq_some_iff.1 hb
      exact ⟨b₀, hb₀, hhost b₀, by rw [hhost]; exact hf b₀ hb₀⟩
    · rw [Function.update_of_ne hi] at hb
      exact ⟨b, hb, rfl, h.bridges i b hb⟩
  refine ⟨h.ports, h.ids, fun i b hb => ?_, fun i b hb => ?_⟩
  · obtain ⟨b₀, hb₀, heq, -⟩ := hcases hb
    rw [heq]
    exact h.hosts i b₀ hb₀
  · exact (hcases hb).choose_spec.2.2

theorem Inv.fromHost (h : Inv Q w) {c : SocketId} {bridgeId : BridgeId} {f : Bridge → Bridge}
    (hs : w.fromHost c bridgeId f = some w') (hhost : ∀ b, (f b).host = b.host)
    (hf : ∀ {up b}, Q up b → Q up (f b)) : Inv Q w' := by
  unfold World.fromHost at hs
  split at hs
  · cases hs
    exact h.onBridge hhost fun b hb => hf (h.bridges bridgeId b hb)
  · cases hs

theorem Inv.ofBrowser (h : Inv Q w) {bridgeId : BridgeId} {f : Bool → Bridge → Bridge}
    (hs : w.ofBrowser bridgeId f = some w') (hhost : ∀ up b, (f up b).host = b.host)
    (hf : ∀ {up b}, Q up b → b.state ≠ .closed → Q up (f up b)) : Inv Q w' := by
  unfold World.ofBrowser at hs
  cases hb : w.bridges bridgeId with
  | none =>
    rw [hb] at hs
    cases hs
  | some b =>
    rw [hb] at hs
    have hs' : (if b.state = .closed then none else some (w.onBridge bridgeId (f (w.up b.host)))) = some w' := hs
    split at hs'
    · cases hs'
    · rename_i hnot
      cases hs'
      refine h.onBridge (hhost _) fun b' hb' => ?_
      rw [hb] at hb'
      cases hb'
      exact hf (h.bridges bridgeId b hb) hnot

/-- The reason that a host closes with. -/
def Event.reason : Event → Option (List UInt16)
  | .wsClosed _ _ _ reason => some reason
  | _ => none

/-- The tunnel goes on, and with a socket that goes its bridges do. -/
theorem Inv.tunnel (hkept : Kept ws Q fits) (h : Inv Q w) {e : Hosts.Event}
    (hs : step ws w (.tunnel e) = some w') : Inv Q w' := by
  obtain ⟨t, ht, rfl⟩ := Option.map_eq_some_iff.1 hs
  cases did ht with
  | connect c user hnew hids hsocks hports =>
    -- the new socket is no one's host yet
    have hup : ∀ d, d ∈ w.tunnel.ids → (t.socks d).isSome = (w.tunnel.socks d).isSome := by
      intro d hd
      rw [hsocks, Function.update_of_ne]
      rintro rfl
      exact hnew hd
    show Inv Q ⟨t, w.bridges⟩
    refine ⟨fun s p a ha => ?_, fun d hd => ?_, fun i b hb => ?_, fun i b hb => ?_⟩
    · rw [show t.ports = w.tunnel.ports from hports] at ha
      have hhost := h.ports s p a ha
      exact (hup _ (h.ids _ hhost)).trans hhost
    · rw [show t.ids = c :: w.tunnel.ids from hids]
      by_cases hdc : d = c
      · exact hdc ▸ List.mem_cons_self
      · have hsame : t.socks d = w.tunnel.socks d := by rw [hsocks, Function.update_of_ne hdc]
        exact List.mem_cons_of_mem _ (h.ids d ((congrArg Option.isSome hsame).symm.trans hd))
    · rw [show t.ids = c :: w.tunnel.ids from hids]
      exact List.mem_cons_of_mem _ (h.hosts i b hb)
    · rw [show World.up ⟨t, w.bridges⟩ b.host = w.up b.host from hup _ (h.hosts i b hb)]
      exact h.bridges i b hb
  | disconnect c hc hids hsocks hports =>
    have hup : ∀ d, (t.socks d).isSome = ((w.tunnel.socks d).isSome && d != c) := by
      intro d
      by_cases hdc : d = c
      · rw [hsocks, hdc, Function.update_self]
        simp
      · rw [hsocks, Function.update_of_ne hdc]
        simp [hdc]
    show Inv Q ⟨t, fun i => (w.bridges i).map (·.handleDisconnect ws c)⟩
    refine ⟨fun s p a ha => ?_, fun d hd => ?_, fun i b hb => ?_, fun i b hb => ?_⟩
    · rw [show t.ports = w.tunnel.ports.cleanupSocket c from hports] at ha
      obtain ⟨ha, hne⟩ := Option.filter_eq_some_iff.1 ha
      exact (hup _).trans (by rw [hne, Bool.and_true]; exact h.ports s p a ha)
    · rw [show t.ids = w.tunnel.ids from hids]
      exact h.ids d (Bool.and_eq_true_iff.1 ((hup d).symm.trans hd)).1
    · obtain ⟨b₀, hb₀, rfl⟩ := Option.map_eq_some_iff.1 hb
      rw [show t.ids = w.tunnel.ids from hids, Bridge.host_handleDisconnect]
      exact h.hosts i b₀ hb₀
    · obtain ⟨b₀, hb₀, rfl⟩ := Option.map_eq_some_iff.1 hb
      rw [Bridge.host_handleDisconnect, show World.up ⟨t, _⟩ b₀.host = (w.up b₀.host && b₀.host != c) from hup _]
      exact hkept.gone (h.bridges i b₀ hb₀)
  | stay _ hquiet hids hup hports =>
    have hafter : w.after ws e t = { w with tunnel := t } := by
      unfold World.after
      cases e with
      | disconnect c => exact absurd rfl (hquiet c)
      | _ => rfl
    rw [hafter]
    refine ⟨fun s p a ha => ?_, fun d hd => ?_, fun i b hb => ?_, fun i b hb => ?_⟩
    · refine (hup _).trans ?_
      rcases hports s p a ha with hold | hhost
      · exact h.ports s p a hold
      · exact hhost
    · rw [show t.ids = w.tunnel.ids from hids]
      exact h.ids d ((hup d).symm.trans hd)
    · rw [show t.ids = w.tunnel.ids from hids]
      exact h.hosts i b hb
    · rw [show World.up ⟨t, w.bridges⟩ b.host = w.up b.host from hup _]
      exact h.bridges i b hb

theorem Inv.upgrade (hkept : Kept ws Q fits) (h : Inv Q w) {bridgeId : BridgeId} {sessionId : SessionId} {port : Nat}
    {path : String} (hs : step ws w (.upgrade bridgeId sessionId port path) = some w') : Inv Q w' := by
  have hs' : (if (w.bridges bridgeId).isSome then none else some _) = some w' := hs
  split at hs'
  · cases hs'
  · cases hs'
    have hcases : ∀ {i b}, Function.update w.bridges bridgeId ((w.tunnel.ports sessionId port).map fun a =>
        .connect a.hostSocketId port path) i = some b → w.bridges i = some b ∨ w.up b.host = true ∧ Q true b := by
      intro i b hb
      by_cases hi : i = bridgeId
      · subst hi
        rw [Function.update_self] at hb
        obtain ⟨a, ha, rfl⟩ := Option.map_eq_some_iff.1 hb
        exact .inr ⟨h.ports _ _ a ha, hkept.connect⟩
      · rw [Function.update_of_ne hi] at hb
        exact .inl hb
    refine ⟨h.ports, h.ids, fun i b hb => ?_, fun i b hb => ?_⟩
    · rcases hcases hb with hold | ⟨hup, -⟩
      · exact h.hosts i b hold
      · exact h.ids _ hup
    · rcases hcases hb with hold | ⟨hup, hnew⟩
      · exact h.bridges i b hold
      · show Q (w.up b.host) b
        rw [hup]
        exact hnew

theorem Inv.step (hkept : Kept ws Q fits) (h : Inv Q w) {e : Event} (hfits : ∀ reason ∈ e.reason, fits reason)
    (hs : Bridges.step ws w e = some w') : Inv Q w' := by
  cases e with
  | tunnel e => exact h.tunnel hkept hs
  | upgrade bridgeId sessionId port path => exact h.upgrade hkept hs
  | wsReady c bridgeId ok => exact h.fromHost hs (fun _ => Bridge.host_onPreviewWsReady) hkept.ready
  | wsMessage c bridgeId frame bufferedAmount =>
    exact h.fromHost hs (fun _ => by simp) hkept.hostMessage
  | wsClosed c bridgeId code reason =>
    exact h.fromHost hs (fun _ => Bridge.host_onPreviewWsClosed) fun hb =>
      hkept.hostClosed hb (hfits reason rfl)
  | message bridgeId frame =>
    exact h.ofBrowser (f := fun up b => b.onMessage up frame) hs (fun _ _ => Bridge.host_onMessage) hkept.message
  | conclude bridgeId code reason =>
    exact h.ofBrowser (f := fun _ b => b.onConclude code reason) hs (fun _ _ => Bridge.host_onConclude)
      fun hb _ => hkept.conclude hb
  | error bridgeId =>
    exact h.ofBrowser (f := fun _ b => b.onError ws) hs (fun _ _ => Bridge.host_onError) fun hb _ => hkept.failed hb
  | close bridgeId code reason =>
    exact h.ofBrowser (f := fun up b => b.onClose up code reason) hs (fun _ _ => Bridge.host_onClose) hkept.closed

theorem Inv.init : Inv Q init := ⟨fun _ _ _ h => (nomatch h), fun _ h => (nomatch h), fun _ _ h => (nomatch h),
  fun _ _ h => (nomatch h)⟩

/-- Whatever sockets of any kind do: the frames a browser has been sent are the first of those that its own host has
sent of its bridge; and a host that is still there has been sent the address asked for, each of the browser's frames
in order, and, once the browser's socket has closed, that. -/
theorem bridge_is_pipe (ws : Ws) (es : List Event) (w : World) (h : run (step ws) init es = some w)
    (bridgeId : BridgeId) (b : Bridge) (hb : w.bridges bridgeId = some b) :
    b.frames <+: b.said ∧ (w.up b.host = true → b.heard = b.news) := by
  have hinv : Inv Bridge.Ok w :=
    run_keeps (I := Inv Bridge.Ok) (fun v e v' hv hs => hv.step kept_ok (fun _ _ => trivial) hs) .init h
  have hok := hinv.bridges bridgeId b hb
  exact ⟨hok.frames, hok.heard⟩

/-- As long as hosts close bridges with reasons whose first 120 units fit a close frame, a browser's socket that the
server has not begun to close is bridged to a host that is there. -/
theorem browsers_served (ws : Ws) (es : List Event) (w : World)
    (hfits : ∀ e ∈ es, ∀ reason ∈ e.reason, byteLength (reason.take 120) ≤ 123)
    (h : run (step ws) init es = some w) (bridgeId : BridgeId) (b : Bridge) (hb : w.bridges bridgeId = some b)
    (hs : b.state ≠ .closed) (hnone : b.closeFrame = none) :
    b.state = .open_ ∧ b.bridged = true ∧ w.up b.host = true := by
  have hmeets : Meets (step ws) (fun _ e => ∀ reason ∈ e.reason, byteLength (reason.take 120) ≤ 123) init es :=
    .of_steps h fun es₁ e es₂ _ _ hes _ _ => hfits e (by simp [hes])
  have hinv : Inv Bridge.Served w :=
    run_inv (I := Inv Bridge.Served) (fun v e v' hv he hs => hv.step kept_served he hs) .init hmeets h
  exact hinv.bridges bridgeId b hb hs hnone

namespace Example

/-- The package, over whole codes. -/
def package : Ws where
  takes code reason := (closeCodes.contains code || isPrivate code) && decide (byteLength reason ≤ 123)
  refused := .closing
  takes_code hcode hreason := by rw [hcode, Bool.true_and, decide_eq_true hreason]

/-- A preview is opened; the browser and the host speak, and a student pretends to be the host. -/
def preview : List Event :=
  Hosts.Example.asked.map .tunnel ++
    [.upgrade "b1" "monday" 3000 "/hmr", .message "b1" ⟨[1], true⟩, .wsReady "c1" "b1" true,
      .wsMessage "c2" "b1" ⟨[6, 6, 6], true⟩ 0, .wsMessage "c1" "b1" ⟨[2], true⟩ 0,
      .wsClosed "c2" "b1" (.ofInt 1000) []]

end Example

open Example in
theorem preview_pipes : ∃ w b, run (step package) init preview = some w ∧ w.bridges "b1" = some b ∧
    b.frames = [⟨[2], true⟩] ∧ b.frames <+: b.said ∧ (w.up b.host = true → b.heard = b.news) := by
  have hrun : ((run (step package) init preview).bind fun w => (w.bridges "b1").map (·.frames)) =
      some [⟨[2], true⟩] := by
    decide
  obtain ⟨w, hw, hb⟩ := Option.bind_eq_some_iff.1 hrun
  obtain ⟨b, hb, hframes⟩ := Option.map_eq_some_iff.1 hb
  exact ⟨w, b, hw, hb, hframes, bridge_is_pipe package preview w hw "b1" b hb⟩

open Example in
theorem preview_served : ∃ w b, run (step package) init preview = some w ∧ w.bridges "b1" = some b ∧
    b.bridged = true ∧ w.up b.host = true := by
  have hrun : ((run (step package) init preview).bind fun w => (w.bridges "b1").map fun b => (b.state, b.closeFrame)) =
      some (.open_, none) := by
    decide
  obtain ⟨w, hw, hb⟩ := Option.bind_eq_some_iff.1 hrun
  obtain ⟨b, hb, hout⟩ := Option.map_eq_some_iff.1 hb
  rw [Prod.mk.injEq] at hout
  obtain ⟨-, hserved⟩ :=
    browsers_served package preview w (by decide) hw "b1" b hb (by rw [hout.1]; decide) hout.2
  exact ⟨w, b, hw, hb, hserved⟩

end Livetich.Tunnel.Bridges
