/-
Recorder tokens on the five gateways. A socket of the root room or of the board drops every packet
but the join before any handler sees it, so nothing it sends leaves a trace. The code, terminal and
tunnel gateways install no such filter, and a recorder token acts there as the person it names:
it opens the code editor to everyone, opens a terminal and takes a forwarded port away. On
`/terminal` a student can do nothing of the kind, and a student's token is harmless there.
-/
import Livetich.Code.Gateway
import Livetich.Terminal.Gateway
import Livetich.Tunnel.Gateway

namespace Livetich.Sockets

variable {E : Type} [DecidableEq E]

/-! ## The gateways -/

inductive Namespace
  | room
  | board
  | code
  | terminal
  | tunnel
  deriving DecidableEq

/-- The middleware of the gateways that film a class: the filter of a recorder token comes before
the rate limiter. -/
def filming (join : String) (user : JwtPayload) : List Middleware :=
  (if user.recorder.isSome then [.only join] else []) ++ [.limit 60]

def roomGateway (handlers : Handlers) : Gateway := ⟨handlers, "room:join", filming "room:join"⟩

def boardGateway (handlers : Handlers) : Gateway := ⟨handlers, "board:join", filming "board:join"⟩

/-- The gateway of a namespace, for any handlers of the root room and of the board. -/
def gatewayOf (room board : Handlers) (y : Code.Yjs E) (store : SessionId → Option (Code.Doc E)) :
    Namespace → Gateway
  | .room => roomGateway room
  | .board => boardGateway board
  | .code => Code.gateway y store
  | .terminal => Terminal.gateway
  | .tunnel => Tunnel.gateway

/-! ## Runs that show a message -/

variable {g : Gateway} {user : JwtPayload}

/-- A message, other than the join, that changes what the class sees. -/
theorem not_silent (c : SocketId) (es : List (Event g)) (now : Nat) (m : g.Message)
    (hes : ∀ e ∈ es, Holds c user e ∧ keeps c e = true) (hm : g.event m ≠ g.join)
    (hne : g.shown (step (run g es) (.packet c now m)).world ≠ g.shown (run g es).world) :
    ¬ Silent g user := by
  intro hsilent
  have hrun := hsilent c (es ++ [.packet c now m]) fun e he => by
    rcases List.mem_append.1 he with he | he
    · exact (hes e he).1
    · rw [List.mem_singleton.1 he]
      exact trivial
  have hkept : es.filter (keeps c) = es := List.filter_eq_self.2 fun e he => (hes e he).2
  have hdropped : [Event.packet c now m].filter (keeps c) = [] := by
    simp [keeps, hm]
  rw [List.filter_append, hkept, hdropped, List.append_nil] at hrun
  refine hne ?_
  rw [← hrun]
  unfold run
  rw [List.foldl_append]
  rfl

/-! ## A socket that gets in -/

/-- A live session of a program that the user teaches, administers or is enrolled in. -/
def ownSession (user : JwtPayload) (sessionId : SessionId) : LiveSession :=
  ⟨sessionId, .live, ⟨"course", some user.sub, user.organizationId, some [pluginCodeInstruction]⟩⟩

def ownReads (user : JwtPayload) (sessionId : SessionId) : JoinReads :=
  ⟨some (ownSession user sessionId), true, true⟩

theorem door_ownReads (user : JwtPayload) (sessionId : SessionId) :
    door user (ownReads user sessionId) = .ok (ownSession user sessionId) := by
  unfold door
  cases hrole : user.role <;> simp [ownReads, ownSession, isEnabledForCourse]

/-- A socket that has joined one session. -/
def joined (user : JwtPayload) (sessionId : SessionId) : Sock := ⟨user, some true, [sessionId], []⟩

@[simp] theorem joined_inRoom (user : JwtPayload) (sessionId : SessionId) :
    (joined user sessionId).inRoom sessionId = true := by
  simp [Sock.inRoom, joined]

@[simp] theorem joined_user (user : JwtPayload) (sessionId : SessionId) :
    (joined user sessionId).user = user := rfl

/-- The two answers a call of `onJoin` waits for. -/
theorem resume_account {α : Type} (user : JwtPayload) (sessionId : SessionId) (shared : α)
    (reads : JoinReads) : Sock.resume (((Sock.new user).settle true).startJoin sessionId) shared
      (0, reads) = (⟨user, some true, [], [.reads sessionId]⟩, shared) :=
  rfl

theorem resume_reads {α : Type} (user : JwtPayload) (sessionId : SessionId) (shared : α) :
    Sock.resume ⟨user, some true, [], [.reads sessionId]⟩ shared (0, ownReads user sessionId) =
      (joined user sessionId, shared) := by
  unfold Sock.resume Sock.onJoin
  simp only [List.getElem?_cons_zero, door_ownReads]
  rfl

section

variable {Shared Message : Type} {start : Shared} {event : Message → String}
  {receive : SocketId → Nat → Sock → Shared → Message → Except Failure (Sock × Shared)}
  {cleanupSocket : Shared → SocketId → Shared} {joinEvent : String}
  {middleware : JwtPayload → List Middleware}

/-- The events of a socket that connects and joins a session of its own. -/
def gettingIn (join : SessionId → Message) (c : SocketId) (user : JwtPayload) (sessionId : SessionId) :
    List (Event ((sockParties start event receive cleanupSocket).gateway joinEvent middleware)) := [
  .connect c 0 user,
  .account c true,
  .packet c 0 (join sessionId),
  .internal (.resume c (0, ownReads user sessionId)),
  .internal (.resume c (0, ownReads user sessionId))]

variable {s : State ((sockParties start event receive cleanupSocket).gateway joinEvent middleware)}
  (join : SessionId → Message) (c : SocketId) (sessionId : SessionId) {chain : List Installed}
  {shared : Shared}

theorem stands_in (hpreview : user.preview.isSome = false) (hfresh : s.conns c = .fresh)
    (hshared : s.world.shared = shared)
    (hpass : dispatch 0 (event (join sessionId)) ((middleware user).map (Middleware.install 0)) =
      (true, chain))
    (hjoin : ∀ k, receive c 0 k shared (join sessionId) = .ok (k.startJoin sessionId, shared)) :
    Parties.Stands ((gettingIn join c user sessionId).foldl step s) c chain (joined user sessionId)
      shared := by
  have hconnected := Parties.Stands.connect hfresh hpreview hshared 0
  have hasked := hconnected.account.packet 0 (join sessionId) hpass (hjoin _)
  have hreading := hasked.resume (0, ownReads user sessionId) (resume_account ..)
  exact hreading.resume (0, ownReads user sessionId) (resume_reads ..)

theorem gettingIn_kept (hjoin : event (join sessionId) = joinEvent) :
    ∀ e ∈ (gettingIn join c user sessionId : List (Event ((sockParties start event receive
      cleanupSocket).gateway joinEvent middleware))), Holds c user e ∧ keeps c e = true := by
  intro e he
  simp only [gettingIn, List.mem_cons, List.not_mem_nil, or_false] at he
  rcases he with rfl | rfl | rfl | rfl | rfl
  · exact ⟨fun _ => rfl, rfl⟩
  · exact ⟨trivial, rfl⟩
  · refine ⟨trivial, ?_⟩
    simp [keeps, hjoin]
  · exact ⟨trivial, rfl⟩
  · exact ⟨trivial, rfl⟩

theorem gettingIn_other {d : SocketId} (hd : c ≠ d) :
    ∀ e ∈ (gettingIn join c user sessionId : List (Event ((sockParties start event receive
      cleanupSocket).gateway joinEvent middleware))), ¬ Parties.Own d e := by
  intro e he
  simp only [gettingIn, List.mem_cons, List.not_mem_nil, or_false] at he
  rcases he with rfl | rfl | rfl | rfl | rfl <;> exact hd

end

/-! ## What a recorder token can do -/

def shell : Terminal.TerminalSessionInfo :=
  ⟨"shell", "bash", .ofInt 80, .ofInt 24, true, none, .instructorOnly, none⟩

/-- On `/terminal` a host's token opens a terminal. -/
theorem terminal_heard (hpreview : user.preview.isSome = false) (hrole : isHostRole user.role = true) :
    ¬ Silent Terminal.gateway user := by
  have hin := stands_in Terminal.Message.join "recorder" "session" hpreview
    (s := State.init Terminal.gateway) rfl rfl rfl fun _ => rfl
  have hopen : Terminal.receive "recorder" 0 (joined user "session") (fun _ _ => none)
      (.open_ "session" shell) = .ok (joined user "session",
        Terminal.Sessions.openTerminal (fun _ _ => none) "session" shell "recorder" user.sub) := by
    unfold Terminal.receive Terminal.onOpen
    simp [hrole]
  have hopened := hin.packet 0 (.open_ "session" shell) rfl hopen
  refine not_silent "recorder" (gettingIn Terminal.Message.join "recorder" user "session") 0
    (.open_ "session" shell) (gettingIn_kept _ _ _ rfl) (by decide) fun hsame => ?_
  have hshared := hopened.shared.symm.trans (hsame.trans hin.shared)
  have hshell := congrFun (congrFun hshared "session") "shell"
  simp [Terminal.Sessions.openTerminal, Terminal.Sessions.set, shell] at hshell
  cases hshell

def host : JwtPayload := ⟨"host", .instructor, "Ada", none, none, none⟩

/-- A run in which a host forwards a port and the socket joins. -/
def forwarding (user : JwtPayload) : List (Event Tunnel.gateway) :=
  gettingIn Tunnel.Message.join "host" host "session" ++ [.packet "host" 0 (.register "session" 3000 none)] ++
    gettingIn Tunnel.Message.join "recorder" user "session"

theorem forwarding_kept : ∀ e ∈ forwarding user, Holds "recorder" user e ∧ keeps "recorder" e = true := by
  intro e he
  rcases List.mem_append.1 he with he | he
  · rcases List.mem_append.1 he with he | he
    · -- events of the host's socket
      simp only [gettingIn, List.mem_cons, List.not_mem_nil, or_false] at he
      rcases he with rfl | rfl | rfl | rfl | rfl <;> refine ⟨?_, by decide⟩
      · exact fun h => absurd h (by decide)
      all_goals exact trivial
    · rw [List.mem_singleton.1 he]
      exact ⟨trivial, by decide⟩
  · exact gettingIn_kept Tunnel.Message.join "recorder" "session" rfl e he

def forwarded : Tunnel.Ports :=
  Tunnel.Ports.registerPort (fun _ _ => none) "session" 3000 none "host" host.sub 0

theorem forwarding_stands (hpreview : user.preview.isSome = false) :
    Parties.Stands (run Tunnel.gateway (forwarding user)) "recorder" [] (joined user "session")
      forwarded := by
  have hhost := stands_in Tunnel.Message.join "host" "session" (show host.preview.isSome = false from rfl)
    (s := State.init Tunnel.gateway) rfl rfl rfl fun _ => rfl
  have hregister : Tunnel.receive "host" 0 (joined host "session") (fun _ _ => none)
      (.register "session" 3000 none) = .ok (joined host "session", forwarded) := rfl
  have hregistered := hhost.packet 0 (.register "session" 3000 none) rfl hregister
  have hfresh : (step ((gettingIn Tunnel.Message.join "host" host "session").foldl step
      (State.init Tunnel.gateway)) (.packet "host" 0 (.register "session" 3000 none))).conns "recorder" =
      .fresh := by
    rw [Parties.conns_of_not_own, Parties.conns_of_none_own (gettingIn_other _ _ _ (by decide))]
    · rfl
    · show ¬ "host" = "recorder"
      decide
  have hin := stands_in Tunnel.Message.join "recorder" "session" hpreview hfresh hregistered.shared rfl
    fun _ => rfl
  unfold run forwarding
  rw [List.foldl_append, List.foldl_append]
  exact hin

/-- On `/tunnel` any token takes a forwarded port away. -/
theorem tunnel_heard (hpreview : user.preview.isSome = false) : ¬ Silent Tunnel.gateway user := by
  have hin := forwarding_stands hpreview
  have hunregister : Tunnel.receive "recorder" 0 (joined user "session") forwarded
      (.unregister "session" 3000) = .ok (joined user "session", forwarded.unregisterPort "session" 3000) := by
    unfold Tunnel.receive Tunnel.onUnregister
    simp
  have hgone := hin.packet 0 (.unregister "session" 3000) rfl hunregister
  refine not_silent "recorder" (forwarding user) 0 (.unregister "session" 3000) forwarding_kept
    (by decide) fun hsame => ?_
  have hshared := hgone.shared.symm.trans (hsame.trans hin.shared)
  have hport := congrFun (congrFun hshared "session") 3000
  simp [Tunnel.Ports.unregisterPort, Tunnel.Ports.registerPort, Tunnel.Ports.set, forwarded] at hport

section

variable (y : Code.Yjs E) (store : SessionId → Option (Code.Doc E))

/-- The documents once the session's is loaded for call 0. -/
def loaded : Code.Docs E :=
  ((((Code.Docs.init store).call y "session" .retain).take y "session" .load).take y "session"
    .load).take y "session" .load

def retained : Code.Docs E := (loaded y store).take y "session" (.resume 0)

/-- A code socket in its own session, which it controls. -/
def controlling (user : JwtPayload) : Code.CodeSock := ⟨joined user "session", ["session"], [], none⟩

def asking (user : JwtPayload) (joins : List Join) : Code.CodeSock :=
  ⟨⟨user, some true, [], joins⟩, [], [], none⟩

def retaining (user : JwtPayload) : Code.CodeSock :=
  ⟨⟨user, some true, [], []⟩, [], [⟨"session", ownSession user "session", 0⟩], none⟩

theorem resume_reads_code (user : JwtPayload) : Code.resume y "recorder" (asking user [.reads "session"])
    (Code.Docs.init store) (.onJoin 0 (ownReads user "session")) =
      (retaining user, (Code.Docs.init store).call y "session" .retain) := by
  unfold Code.resume Sock.onJoin asking
  simp only [List.getElem?_cons_zero, door_ownReads]
  rfl

theorem enter_own (user : JwtPayload) :
    Code.CodeSock.enter ⟨⟨user, some true, [], []⟩, [], [], none⟩ "session" (ownSession user "session") =
      controlling user := by
  unfold Code.CodeSock.enter
  simp [ownSession, Sock.enter, Sock.inRoom, Code.CodeSock.controls, controlling, joined]

theorem resume_retained_code (user : JwtPayload) :
    Code.resume y "recorder" (retaining user) (loaded y store) (.retained 0) =
      (controlling user, retained y store) := by
  have hwaits : ((loaded y store).service "session").tasks.get 0 = some (.retain 0) := rfl
  have hloaded : ((loaded y store).service "session").loading = none := rfl
  have hentry : (((loaded y store).service "session").heap 0).isSome = true := rfl
  unfold Code.resume retaining
  simp only [List.getElem?_cons_zero]
  unfold Code.onRetained
  simp only [hwaits, hloaded, hentry, Option.any_none, Bool.false_eq_true, if_false, if_true,
    List.eraseIdx_cons_zero, enter_own]
  rfl

/-- The socket joins its session on `/code`. -/
def entering (user : JwtPayload) : List (Event (Code.gateway y store)) := [
  .connect "recorder" 0 user,
  .account "recorder" true,
  .packet "recorder" 0 (.join "session"),
  .internal (.resume "recorder" (.onJoin 0 (ownReads user "session"))),
  .internal (.resume "recorder" (.onJoin 0 (ownReads user "session"))),
  .internal (.background (.load "session")),
  .internal (.background (.load "session")),
  .internal (.background (.load "session")),
  .internal (.resume "recorder" (.retained 0))]

theorem entering_stands (hpreview : user.preview.isSome = false) :
    Parties.Stands (run (Code.gateway y store) (entering y store user)) "recorder" [.limit 100 1 0]
      (controlling user) (retained y store) := by
  have hconnected := Parties.Stands.connect (s := State.init (Code.gateway y store)) (c := "recorder")
    rfl hpreview rfl 0
  have hasked := hconnected.account.packet 0 (.join "session") rfl rfl
  have hreading := hasked.resume (.onJoin 0 (ownReads user "session"))
    (r := (asking user [.reads "session"], Code.Docs.init store)) rfl
  have hretaining := hreading.resume (.onJoin 0 (ownReads user "session")) (resume_reads_code y store user)
  have hloaded := ((hretaining.background (.load "session")).background (.load "session")).background
    (.load "session")
  exact hloaded.resume (.retained 0) (resume_retained_code y store user)

theorem entering_kept : ∀ e ∈ entering y store user, Holds "recorder" user e ∧ keeps "recorder" e = true := by
  intro e he
  simp only [entering, List.mem_cons, List.not_mem_nil, or_false] at he
  rcases he with rfl | rfl | rfl | rfl | rfl | rfl | rfl | rfl | rfl
  · exact ⟨fun _ => rfl, rfl⟩
  all_goals exact ⟨trivial, rfl⟩

def everyone : Code.CodePermissionPayload := ⟨"session", .open_, none⟩

/-- On `/code` any token opens the editor to everyone. -/
theorem code_heard (hpreview : user.preview.isSome = false) : ¬ Silent (Code.gateway y store) user := by
  have hin := entering_stands y store hpreview
  have hpermit : Code.receive y "recorder" 0 (controlling user) (retained y store)
      (.permission everyone) = .ok (controlling user, (retained y store).setPermission everyone) := by
    unfold Code.receive Code.onPermission Code.asController
    simp [controlling, Code.CodeSock.controls, everyone]
  have hopened := hin.packet 0 (.permission everyone) rfl hpermit
  have hother : "code:permission" ≠ "code:join" := by decide
  refine not_silent "recorder" (entering y store user) 0 (.permission everyone) (entering_kept y store)
    hother fun hsame => ?_
  change Code.Docs.view _ = Code.Docs.view _ at hsame
  rw [hopened.shared, hin.shared] at hsame
  have hmode := congrArg (fun v => (v "session").permission.mode) hsame
  have hopen : (((retained y store).setPermission everyone).view "session").permission.mode = .open_ := rfl
  rw [hopen] at hmode
  cases hmode

end

/-! ## Where a recorder token is silent -/

theorem filming_filters (handlers : Handlers) (join : String) (h : user.recorder.isSome = true) :
    FiltersOrRefuses ⟨handlers, join, filming join⟩ user := by
  refine .inr ⟨[.limit 60], ?_⟩
  show filming join user = _
  unfold filming
  rw [h]
  rfl

/-- A recorder token leaves no trace on the root room and on the board, whatever their handlers do,
and on `/terminal` where it names a student. Anywhere else it is heard, unless it is also a preview
token, which no gateway lets in. -/
theorem recorder_silent (room board : Handlers) (y : Code.Yjs E) (store : SessionId → Option (Code.Doc E))
    (n : Namespace) (user : JwtPayload) (h : user.recorder.isSome = true) :
    Silent (gatewayOf room board y store n) user ↔
      n = .room ∨ n = .board ∨ (n = .terminal ∧ user.role = .student) ∨ user.preview.isSome = true := by
  cases hpreview : user.preview.isSome with
  | true =>
    have hrefused : FiltersOrRefuses (gatewayOf room board y store n) user := .inl hpreview
    simp [hrefused.silent]
  | false =>
    cases n with
    | room => simp [gatewayOf, roomGateway, (filming_filters room "room:join" h).silent]
    | board => simp [gatewayOf, boardGateway, (filming_filters board "board:join" h).silent]
    | code => simp [gatewayOf, code_heard y store hpreview]
    | tunnel => simp [gatewayOf, tunnel_heard hpreview]
    | terminal =>
      cases hrole : user.role with
      | student => simp [gatewayOf, Terminal.student_silent hrole]
      | instructor => simp [gatewayOf, terminal_heard hpreview (by rw [hrole]; rfl)]
      | orgAdmin => simp [gatewayOf, terminal_heard hpreview (by rw [hrole]; rfl)]

namespace Example

/-- The token of a recording that an instructor started. -/
def camera : JwtPayload := { host with recorder := some ⟨"session", "recording"⟩ }

/-- A Yjs without contents, for runs that read none. -/
def blank : Code.Yjs Nat := ⟨fun m _ => m, fun _ => "", fun _ _ => 0, fun _ => 0⟩

/-- A gateway that counts the joins of each socket. -/
def turnstile (join : String) : Handlers where
  World := SocketId → Nat
  Message := SessionId
  Internal := Empty
  Shown := SocketId → Nat
  init := fun _ => 0
  event _ := join
  connect w _ _ := w
  settle w _ _ := w
  receive w _ c _ := Function.update w c (w c + 1)
  internal w _ := w
  disconnect w _ := w
  shown w := w

end Example

open Example in
theorem camera_silent :
    Silent (gatewayOf (turnstile "room:join") (turnstile "board:join") blank (fun _ => none) .room) camera :=
  (recorder_silent _ _ blank (fun _ => none) .room camera rfl).2 (.inl rfl)

open Example in
/-- The camera of an instructor opens the code editor to the whole class. -/
theorem camera_opens_editor : ¬ Silent (Code.gateway blank fun _ => none) camera :=
  code_heard blank (fun _ => none) rfl

end Livetich.Sockets
