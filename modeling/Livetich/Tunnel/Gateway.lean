/-
The tunnel gateway: the forwarded ports `TunnelService` keeps and the handlers of `/tunnel` over
them. The messages that answer a proxied request or carry a preview's WebSocket only touch pending
responses, which are not modelled here. Ports are numbered by naturals.
-/
import Livetich.Sockets.Join

namespace Livetich.Tunnel

open Livetich.Sockets

/-! ## The forwarded ports -/

structure ActivePort where
  sessionId : SessionId
  port : Nat
  label : Option String
  targetUrl : String
  hostSocketId : SocketId
  hostUserId : UserId
  /-- In milliseconds. -/
  registeredAt : Nat
  deriving DecidableEq

/-- The `ports` map; its key is made of the session and the port. -/
abbrev Ports := SessionId → Nat → Option ActivePort

namespace Ports

def set (ports : Ports) (sessionId : SessionId) (port : Nat) (x : Option ActivePort) : Ports :=
  Function.update ports sessionId (Function.update (ports sessionId) port x)

def registerPort (ports : Ports) (sessionId : SessionId) (port : Nat) (label : Option String)
    (hostSocketId : SocketId) (hostUserId : UserId) (now : Nat) : Ports :=
  ports.set sessionId port
    (some ⟨sessionId, port, label, s!"http://localhost:{port}", hostSocketId, hostUserId, now⟩)

def unregisterPort (ports : Ports) (sessionId : SessionId) (port : Nat) : Ports :=
  ports.set sessionId port none

/-- `cleanupSocket`: the ports a socket hosts go. -/
def cleanupSocket (ports : Ports) (socketId : SocketId) : Ports :=
  fun sessionId port => (ports sessionId port).filter (·.hostSocketId != socketId)

end Ports

/-! ## The handlers -/

/-- Messages about pending responses and preview sockets. -/
inductive Reply
  | headers | chunk | end_ | error | wsReady | wsMessage | wsClosed
  deriving DecidableEq

def Reply.event : Reply → String
  | .headers => "tunnel:response:headers"
  | .chunk => "tunnel:response:chunk"
  | .end_ => "tunnel:response:end"
  | .error => "tunnel:response:error"
  | .wsReady => "tunnel:ws:ready"
  | .wsMessage => "tunnel:ws:message"
  | .wsClosed => "tunnel:ws:closed"

inductive Message
  | join (sessionId : SessionId)
  | leave (sessionId : SessionId)
  | register (sessionId : SessionId) (port : Nat) (label : Option String)
  | unregister (sessionId : SessionId) (port : Nat)
  | reply (r : Reply)

def Message.event : Message → String
  | .join _ => "tunnel:join"
  | .leave _ => "tunnel:leave"
  | .register .. => "tunnel:register"
  | .unregister .. => "tunnel:unregister"
  | .reply r => r.event

def notInRoom : Failure := ⟨"NOT_IN_ROOM", "Join the tunnel room first"⟩

def onRegister (c : SocketId) (now : Nat) (k : Sock) (ports : Ports) (sessionId : SessionId)
    (port : Nat) (label : Option String) : Except Failure Ports :=
  if !k.inRoom sessionId then .error notInRoom
  else if !isHostRole k.user.role then .error ⟨"FORBIDDEN", "Only instructors can forward ports"⟩
  else .ok (ports.registerPort sessionId port label c k.user.sub now)

/-- Anyone in the room may take a port away: the handler has no test of the role or the host. -/
def onUnregister (k : Sock) (ports : Ports) (sessionId : SessionId) (port : Nat) : Except Failure Ports :=
  if !k.inRoom sessionId then .error notInRoom
  else .ok (ports.unregisterPort sessionId port)

def receive (c : SocketId) (now : Nat) (k : Sock) (ports : Ports) :
    Message → Except Failure (Sock × Ports)
  | .join sessionId => .ok (k.startJoin sessionId, ports)
  | .leave sessionId => .ok (k.leave sessionId, ports)
  | .register sessionId port label => (k, ·) <$> onRegister c now k ports sessionId port label
  | .unregister sessionId port => (k, ·) <$> onUnregister k ports sessionId port
  | .reply _ => .ok (k, ports)

@[reducible] def parties : Parties :=
  sockParties (fun _ _ => none) Message.event receive Ports.cleanupSocket

/-- `/tunnel`: no middleware at all. -/
abbrev gateway : Gateway := parties.gateway "tunnel:join" fun _ => []

end Livetich.Tunnel
