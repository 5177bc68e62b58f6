/-
Whose a forwarded port and a pending response are: the sockets of `/tunnel` join, register and unregister ports and
answer proxied requests, which are dispatched to the host of their port. Request ids are drawn anew for each request.
-/
import Livetich.Lib.Table
import Livetich.Tunnel.Gateway
import Livetich.Tunnel.Responses

namespace Livetich.Tunnel.Hosts

open TransSys Livetich.Sockets

abbrev ReqId := String

/-- A proxied request and the socket it was dispatched to. -/
structure Dispatched where
  host : SocketId
  request : Request
  deriving DecidableEq

structure World where
  socks : SocketId → Option Sock
  /-- The ids of all sockets so far. -/
  ids : List SocketId
  ports : Ports
  requests : ReqId → Option Dispatched

def init : World := ⟨fun _ => none, [], fun _ _ => none, fun _ => none⟩

inductive Event
  /-- A socket with a token that verifies. -/
  | connect (c : SocketId) (user : JwtPayload)
  /-- The account check of a socket is answered. -/
  | settle (c : SocketId) (permitted : Bool)
  /-- A message about rooms and ports. -/
  | receive (c : SocketId) (now : Nat) (message : Message)
  /-- `tunnel:response:headers`, `chunk`, `end` or `error`. -/
  | respond (c : SocketId) (reqId : ReqId) (frame : Frame)
  /-- What a call of `onJoin` waits for is answered. -/
  | answer (c : SocketId) (i : Nat) (reads : JoinReads)
  | disconnect (c : SocketId)
  /-- `ProxyController.forward`. -/
  | forward (reqId : ReqId) (sessionId : SessionId) (port : Nat)
  | timeout (reqId : ReqId)
  /-- The viewer's response closes. -/
  | close (reqId : ReqId)

/-- The socket whose message or disconnect an event is. -/
def Event.sender : Event → Option SocketId
  | .receive c _ _ | .respond c _ _ | .disconnect c => some c
  | _ => none

/-- The request that an event ends without its host. -/
def Event.ends : Event → Option ReqId
  | .timeout reqId | .close reqId => some reqId
  | _ => none

namespace World

def setSock (w : World) (c : SocketId) (k : Option Sock) : World := { w with socks := Function.update w.socks c k }

/-- A request goes on. -/
def onRequest (w : World) (reqId : ReqId) (event : Request.Event) : World :=
  { w with requests := Function.update w.requests reqId ((w.requests reqId).map fun d =>
      { d with request := (Request.step d.request event).getD d.request }) }

end World

def step (w : World) : Event → Option World
  | .connect c user => if w.ids.contains c then none else some { w.setSock c (some (.new user)) with ids := c :: w.ids }
  | .settle c permitted => (w.socks c).map fun k => w.setSock c (some (k.settle permitted))
  | .receive c now message => (w.socks c).map fun k => match Tunnel.receive c now k w.ports message with
    | .ok (k, ports) => { w.setSock c (some k) with ports }
    | .error _ => w
  | .respond c reqId frame => (w.socks c).map fun _ => w.onRequest reqId (.frame frame)
  | .answer c i reads => (w.socks c).map fun k => w.setSock c (some (k.resume w.ports (i, reads)).1)
  | .disconnect c => (w.socks c).map fun _ => { w.setSock c none with ports := w.ports.cleanupSocket c }
  | .forward reqId sessionId port =>
    if (w.requests reqId).isSome then none
    else some { w with requests := Function.update w.requests reqId ((w.ports sessionId port).map fun a =>
      ⟨a.hostSocketId, .registered⟩) }
  | .timeout reqId => some (w.onRequest reqId .timeout)
  | .close reqId => some (w.onRequest reqId .close)

/-! ## Whose messages they are -/

/-- A port is registered anew or unregistered, and a pending response is written to, by its host only; a message that
is refused may be anyone's. -/
def byHost (w : World) : Event → Bool
  | .receive c _ (.register sessionId port _) => (w.socks c).all fun k =>
    !k.inRoom sessionId || !isHostRole k.user.role || (w.ports sessionId port).all (·.hostSocketId == c)
  | .receive c _ (.unregister sessionId port) => (w.socks c).all fun k =>
    !k.inRoom sessionId || (w.ports sessionId port).all (·.hostSocketId == c)
  | .respond c reqId _ => (w.requests reqId).all fun d => d.request.pending.isNone || d.host == c
  | _ => true

theorem set_ne {ports : Ports} {sessionId s : SessionId} {port p : Nat} {x : Option ActivePort}
    (h : ¬(s = sessionId ∧ p = port)) : ports.set sessionId port x s p = ports s p :=
  Lib.put₂_of_ne h

/-- A message to which the condition applies leaves the ports of other hosts alone. -/
theorem receive_port {w : World} {c : SocketId} {now : Nat} {message : Message} {k k' : Sock} {ports : Ports}
    (hok : byHost w (.receive c now message) = true) (hk : w.socks c = some k)
    (h : Tunnel.receive c now k w.ports message = .ok (k', ports)) {s : SessionId} {p : Nat} {a : ActivePort}
    (ha : w.ports s p = some a) (hhost : c ≠ a.hostSocketId) : ports s p = some a := by
  cases message with
  | join sessionId => cases h; exact ha
  | leave sessionId => cases h; exact ha
  | reply r => cases h; exact ha
  | register sessionId port label =>
    obtain ⟨ports', hports, hout⟩ := map_eq_ok h
    cases hout
    unfold onRegister at hports
    split at hports
    · cases hports
    · rename_i hroom
      split at hports
      · cases hports
      · rename_i hrole
        cases hports
        refine (set_ne ?_).trans ha
        rintro ⟨rfl, rfl⟩
        simp only [byHost, hk, Option.all_some, ha, Bool.or_eq_true, beq_iff_eq] at hok
        rcases hok with (hok | hok) | hok
        · exact hroom hok
        · exact hrole hok
        · exact hhost hok.symm
  | unregister sessionId port =>
    obtain ⟨ports', hports, hout⟩ := map_eq_ok h
    cases hout
    unfold onUnregister at hports
    split at hports
    · cases hports
    · rename_i hroom
      cases hports
      refine (set_ne ?_).trans ha
      rintro ⟨rfl, rfl⟩
      simp only [byHost, hk, Option.all_some, ha, Bool.or_eq_true, beq_iff_eq] at hok
      rcases hok with hok | hok
      · exact hroom hok
      · exact hhost hok.symm

/-- A port stays as it is at any event but a message or the disconnect of its host. -/
theorem step_port {w w' : World} {e : Event} (hok : byHost w e = true) (h : step w e = some w') {s : SessionId}
    {p : Nat} {a : ActivePort} (ha : w.ports s p = some a) (hsender : e.sender ≠ some a.hostSocketId) :
    w'.ports s p = some a := by
  cases e with
  | connect c user =>
    rw [step] at h
    split at h
    · cases h
    · cases h
      exact ha
  | settle c permitted =>
    obtain ⟨k, -, rfl⟩ := Option.map_eq_some_iff.1 h
    exact ha
  | answer c i reads =>
    obtain ⟨k, -, rfl⟩ := Option.map_eq_some_iff.1 h
    exact ha
  | respond c reqId frame =>
    obtain ⟨k, -, rfl⟩ := Option.map_eq_some_iff.1 h
    exact ha
  | timeout reqId => cases h; exact ha
  | close reqId => cases h; exact ha
  | forward reqId sessionId port =>
    rw [step] at h
    split at h
    · cases h
    · cases h
      exact ha
  | disconnect c =>
    obtain ⟨k, -, rfl⟩ := Option.map_eq_some_iff.1 h
    have hne : a.hostSocketId ≠ c := fun h => hsender (congrArg some h.symm)
    show (w.ports s p).filter (·.hostSocketId != c) = some a
    rw [ha]
    exact Option.filter_eq_some_iff.2 ⟨rfl, bne_iff_ne.2 hne⟩
  | receive c now message =>
    obtain ⟨k, hk, rfl⟩ := Option.map_eq_some_iff.1 h
    cases hreceive : Tunnel.receive c now k w.ports message with
    | error f =>
      simp only
      exact ha
    | ok r =>
      exact receive_port hok hk hreceive ha fun h => hsender (congrArg some h)

theorem onRequest_other {w : World} {reqId other : ReqId} {event : Request.Event} (h : other ≠ reqId) :
    (w.onRequest reqId event).requests other = w.requests other :=
  Function.update_of_ne h ..

/-- A request stays as it is at any event but a message of its host, the timeout and the viewer's abort. -/
theorem step_request {w w' : World} {e : Event} (hok : byHost w e = true) (h : step w e = some w') {reqId : ReqId}
    {d : Dispatched} (hd : w.requests reqId = some d) (hsender : e.sender ≠ some d.host) (hends : e.ends ≠ some reqId) :
    w'.requests reqId = some d := by
  cases e with
  | connect c user =>
    rw [step] at h
    split at h
    · cases h
    · cases h
      exact hd
  | settle c permitted =>
    obtain ⟨k, -, rfl⟩ := Option.map_eq_some_iff.1 h
    exact hd
  | answer c i reads =>
    obtain ⟨k, -, rfl⟩ := Option.map_eq_some_iff.1 h
    exact hd
  | disconnect c =>
    obtain ⟨k, -, rfl⟩ := Option.map_eq_some_iff.1 h
    exact hd
  | receive c now message =>
    obtain ⟨k, -, rfl⟩ := Option.map_eq_some_iff.1 h
    split
    · exact hd
    · exact hd
  | timeout other =>
    cases h
    exact (onRequest_other fun h => hends (congrArg some h.symm)).trans hd
  | close other =>
    cases h
    exact (onRequest_other fun h => hends (congrArg some h.symm)).trans hd
  | forward other sessionId port =>
    rw [step] at h
    split at h
    · cases h
    · rename_i hnew
      cases h
      refine (Function.update_of_ne ?_ ..).trans hd
      rintro rfl
      rw [hd] at hnew
      exact hnew rfl
  | respond c other frame =>
    obtain ⟨k, -, rfl⟩ := Option.map_eq_some_iff.1 h
    by_cases hother : reqId = other
    · subst hother
      -- not the host: the entry is gone, so the message changes nothing
      simp only [byHost, hd, Option.all_some, Bool.or_eq_true, Option.isNone_iff_eq_none, beq_iff_eq] at hok
      rcases hok with hgone | hhost
      · unfold World.onRequest
        simp only [Function.update_self, hd, Option.map_some, Request.step, Option.getD_some,
          Request.receive_gone hgone]
      · exact absurd (congrArg some hhost.symm) hsender
    · exact (onRequest_other hother).trans hd

/-- In a run in which only hosts register and unregister over a port and answer a pending request: as long as the host
of a port is not heard of the port stays as it is, and so does a response until its host is heard of, it times out or
the viewer goes away. -/
theorem host_decides {es₁ es₂ : List Event} {s t : World}
    (hok : Meets step (fun w e => byHost w e = true) init (es₁ ++ es₂)) (h₁ : run step init es₁ = some s)
    (h₂ : run step s es₂ = some t) :
    (∀ sessionId port a, s.ports sessionId port = some a → (∀ e ∈ es₂, e.sender ≠ some a.hostSocketId) →
      t.ports sessionId port = some a) ∧
    ∀ reqId d, s.requests reqId = some d → (∀ e ∈ es₂, e.sender ≠ some d.host ∧ e.ends ≠ some reqId) →
      t.requests reqId = some d := by
  have hok₂ := (meets_append hok h₁).2
  refine ⟨fun sessionId port a ha hquiet => ?_, fun reqId d hd hquiet => ?_⟩
  · refine run_inv (I := fun w => w.ports sessionId port = some a) (fun w e w' hw hwe hstep => ?_) ha
      (hok₂.and_forall hquiet) h₂
    exact step_port hwe.2 hstep hw hwe.1
  · refine run_inv (I := fun w => w.requests reqId = some d) (fun w e w' hw hwe hstep => ?_) hd
      (hok₂.and_forall hquiet) h₂
    exact step_request hwe.2 hstep hw hwe.1.1 hwe.1.2

/-! ### A student in the room -/

namespace Example

def zayd : JwtPayload := ⟨"zayd", .instructor, "Zayd", some "acme", none, none⟩

def bilal : JwtPayload := ⟨"bilal", .student, "Bilal", some "acme", none, none⟩

def monday : LiveSession := ⟨"monday", .live, ⟨"web-1", some "zayd", some "acme", some ["code-instruction"]⟩⟩

/-- A socket connects and joins the session. -/
def joined (c : SocketId) (user : JwtPayload) : List Event :=
  [.connect c user, .settle c true, .receive c 0 (.join "monday"), .answer c 0 ⟨none, false, false⟩,
    .answer c 0 ⟨some monday, true, true⟩]

/-- The instructor forwards a port, and a viewer asks for a page. -/
def asked : List Event :=
  joined "c1" zayd ++ joined "c2" bilal ++
    [.receive "c1" 7 (.register "monday" 3000 (some "app")), .forward "r1" "monday" 3000]

/-- The student tries the instructor's port, and another request. -/
def tries : List Event :=
  [.receive "c2" 8 (.register "monday" 3000 none), .receive "c2" 9 (.unregister "monday" 4000),
    .respond "c2" "r2" .end_, .disconnect "c2"]

/-- The student takes the port away, and answers the request. -/
def takes : List Event := [.receive "c2" 8 (.unregister "monday" 3000), .respond "c2" "r1" .end_]

end Example

open Example in
theorem keeps_port : ∃ s t, run step init asked = some s ∧ run step s tries = some t ∧
    (s.ports "monday" 3000).map (·.hostSocketId) = some "c1" ∧ t.ports "monday" 3000 = s.ports "monday" 3000 ∧
    t.requests "r1" = some ⟨"c1", .registered⟩ := by
  have hrun : ((run step init asked).bind fun s => (run step s tries).map fun _ =>
      ((s.ports "monday" 3000).map (·.hostSocketId), s.requests "r1")) =
        some (some "c1", some ⟨"c1", .registered⟩) := by
    decide
  obtain ⟨s, t, hs, ht, hout⟩ := observed hrun
  rw [Prod.mk.injEq] at hout
  obtain ⟨a, ha, hhost⟩ := Option.map_eq_some_iff.1 hout.1
  obtain ⟨hports, hrequests⟩ := host_decides (by decide) hs ht
  refine ⟨s, t, hs, ht, hout.1, ?_, hrequests _ _ hout.2 (by decide)⟩
  rw [ha]
  refine hports _ _ a ha ?_
  rw [hhost]
  decide

open Example in
/-- The student's messages are taken: the port is gone, and the viewer has an empty page. -/
theorem student_takes :
    (run step init (asked ++ takes)).map (fun w => (w.ports "monday" 3000, w.requests "r1")) =
      some (none, some ⟨"c1", none, .cleared, ⟨.ended, 200, [], [], 1, false, false⟩⟩) := by
  decide

end Livetich.Tunnel.Hosts
