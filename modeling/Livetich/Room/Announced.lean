/-
What a class is shown of its room: presence, raised hands, speakers, the chat lock, the stage view and the colour
scheme, with the handlers that change them and what these emit. Each handler is a program of Redis calls; a list is
emitted as it was read, and a setting as it was written, once Redis answers, and Redis answers in order.

The mushaf, the tajweed annotations and the chat itself are left out, as are the errors a handler sends to its caller
alone. What the database answers is part of the event. No call fails, and no key outlives its twelve hours.
-/
import Livetich.Lib.Announce
import Livetich.Room.Hands
import Livetich.Sockets.Join

namespace Livetich.Room.Announced

open TransSys Announce
open Room.Membership (isTeaching isShadow verdict)
open Room.Hands (Sock)
open Sockets (isEnabledForCourse pluginCodeInstruction)

/-! ## The room -/

def pluginIslamicEducation : String := "islamic-education"

inductive StageView
  | video
  | board
  | quran
  | code
  deriving DecidableEq

/-- The view `onViewChange` makes of its payload. -/
def StageView.ofString : String → StageView
  | "board" => .board
  | "quran" => .quran
  | "code" => .code
  | _ => .video

/-- The pack a view belongs to. -/
def StageView.pack : StageView → Option String
  | .quran => some pluginIslamicEducation
  | .code => some pluginCodeInstruction
  | .video | .board => none

inductive RoomScheme
  | teal
  | forest
  | indigo
  | plum
  deriving DecidableEq

/-- A scheme of `ROOM_SCHEMES`. -/
def RoomScheme.ofString : String → Option RoomScheme
  | "teal" => some .teal
  | "forest" => some .forest
  | "indigo" => some .indigo
  | "plum" => some .plum
  | _ => none

/-- The sockets, and the keys of `RoomStateService` for the session. -/
structure Store where
  sockets : Pool Sock
  presence : List RoomUser
  hands : List RoomUser
  speakers : List UserId
  chatLocked : Bool
  view : Option StageView
  theme : Option RoomScheme

def Store.init : Store := ⟨Pool.empty, [], [], [], false, none, none⟩

namespace Store

def setSock (s : Store) (c : Nat) (f : Sock → Sock) : Store :=
  { s with sockets := s.sockets.put c ((s.sockets.get c).map f) }

def addPresence (s : Store) (user : RoomUser) : Store :=
  { s with presence := s.presence.filter (·.userId != user.userId) ++ [user] }

def removePresence (s : Store) (userId : UserId) : Store :=
  { s with presence := s.presence.filter (·.userId != userId) }

def raiseHand (s : Store) (user : RoomUser) : Store :=
  { s with hands := s.hands.filter (·.userId != user.userId) ++ [user] }

def lowerHand (s : Store) (userId : UserId) : Store := { s with hands := s.hands.filter (·.userId != userId) }

def clearHands (s : Store) : Store := { s with hands := [] }

def grantMic (s : Store) (userId : UserId) : Store :=
  { s with speakers := if userId ∈ s.speakers then s.speakers else s.speakers ++ [userId] }

def revokeMic (s : Store) (userId : UserId) : Store := { s with speakers := s.speakers.filter (· != userId) }

def setChatLock (locked : Bool) (s : Store) : Store := { s with chatLocked := locked }

def setView (view : StageView) (s : Store) : Store := { s with view := some view }

def setTheme (scheme : RoomScheme) (s : Store) : Store := { s with theme := some scheme }

/-- `userStillInRoom`. -/
def userStillInRoom (s : Store) (userId : UserId) (except : Nat) : Bool :=
  s.sockets.entries.any fun p => p.1 != except && p.2.connected && p.2.inRoom && p.2.user.sub == userId

/-- `addPresence(sessionId, roomUser(client))`. -/
def showSock (s : Store) (c : Nat) : Store :=
  match s.sockets.get c with
  | some k => s.addPresence (roomUser k.user k.teaching)
  | none => s

/-- A socket that gets what is emitted to the room. -/
def reads (s : Store) (c : Nat) : Bool := (s.sockets.get c).any fun k => k.connected && k.inRoom

end Store

/-! ## What is emitted -/

/-- `room:presence`, `hands:update`, `mic:speakers`, `chat:locked`, `view:changed` and `theme:changed`. -/
inductive Topic
  | presence
  | hands
  | speakers
  | chatLocked
  | view
  | theme
  deriving DecidableEq

inductive Shown
  | users (users : List RoomUser)
  | ids (userIds : List UserId)
  | locked (locked : Bool)
  | view (view : StageView)
  | scheme (scheme : RoomScheme)
  deriving DecidableEq

/-- `listPresence`, `listHands`, `listSpeakers`, `isChatLocked`, `getView` and `getTheme`. -/
def Store.shown (s : Store) : Topic → Shown
  | .presence => .users s.presence
  | .hands => .users s.hands
  | .speakers => .ids s.speakers
  | .chatLocked => .locked s.chatLocked
  | .view => .view (s.view.getD .video)
  | .theme => .scheme (s.theme.getD .teal)

/-! ## The handlers -/

abbrev Handler := Prog Store Topic Nat

/-- What `onJoin` reads for a socket that is let in, after its presence. -/
def catchUp (c : Nat) : Handler :=
  .tell .chatLocked (some c) <| .tell .view (some c) <| .tell .theme (some c) <|
    .tell .hands (some c) <| .tell .speakers (some c) .done

/-- `onJoin` from `client.join` on. -/
def entered (c : Nat) (shadow : Bool) : Handler :=
  .call (·.setSock c fun k => { k with inRoom := true }) <|
    if shadow then .tell .presence (some c) (catchUp c)
    else .call (·.showSock c) <| .tell .presence none (catchUp c)

/-- `onJoin` of this room or of another, once its queries are answered. -/
def onJoin (room : SessionId) (c : Nat) (k : Sock) (sessionId : SessionId) (teach : Bool)
    (session : Option LiveSession) (enrolled : Bool) : Handler :=
  match session with
  | none => .done
  | some session =>
    if session.status = .ended then .done
    else
      let shadow := isShadow k.user sessionId teach
      .call (·.setSock c fun k => { k with teaching := isTeaching k.user teach, shadow }) <|
        if sessionId ≠ room then .done
        else match verdict k.user sessionId session with
          | .refuse => .done
          | .enter => entered c shadow
          | .ifEnrolled => if enrolled then entered c shadow else .done

/-- `onLeave` and `handleDisconnect` for a socket that was there to be seen. -/
def departed (c : Nat) (userId : UserId) : Handler :=
  .ask fun s =>
    if s.userStillInRoom userId c then .done
    else .call (·.removePresence userId) <| .call (·.lowerHand userId) <|
      .tell .presence none <| .tell .hands none .done

def onLeave (c : Nat) (k : Sock) : Handler :=
  .call (·.setSock c fun k => { k with inRoom := false }) <| if k.shadow then .done else departed c k.user.sub

/-- The flag is looked at when the loop comes to this session. -/
def handleDisconnect (c : Nat) (k : Sock) : Handler :=
  .call (·.setSock c fun k => { k with connected := false, inRoom := false }) <|
    if k.inRoom then .ask fun s => if (s.sockets.get c).any (·.shadow) then .done else departed c k.user.sub
    else .done

def onHandRaise (k : Sock) : Handler :=
  if k.inRoom && k.user.role == .student then
    .call (·.raiseHand (roomUser k.user k.teaching)) <| .tell .hands none .done
  else .done

def onHandLower (k : Sock) (needsHand : Bool) : Handler :=
  if k.inRoom then
    .call (·.lowerHand k.user.sub) <|
      if needsHand then .ask fun s =>
        if k.user.sub ∈ s.speakers then
          .call (·.revokeMic k.user.sub) <| .tell .speakers none <| .tell .hands none .done
        else .tell .hands none .done
      else .tell .hands none .done
  else .done

/-- `randomHand` reads the keys, and then the hand it has chosen. -/
def onPickRandom (choice : Nat) : Handler :=
  .ask fun s => match s.hands[choice]? with
    | none => .done
    | some user => .ask fun s =>
      if s.hands.any (·.userId == user.userId) then
        .call Store.clearHands <| .tell .hands none <| .call (·.grantMic user.userId) <| .tell .speakers none .done
      else .done

def onMicGrant (userId : UserId) (needsHand : Bool) : Handler :=
  .ask fun s =>
    if needsHand && !s.hands.any (·.userId == userId) then .done
    else .call (·.grantMic userId) <| .tell .speakers none .done

def onMicRevoke (userId : UserId) : Handler := .call (·.revokeMic userId) <| .tell .speakers none .done

def onChatLock (locked : Bool) : Handler := .set (·.setChatLock locked) .chatLocked .done

def onViewChange (course : CourseRef) (orgEnabled : Bool) (view : StageView) : Handler :=
  if view.pack.all fun key => isEnabledForCourse course key orgEnabled then .set (·.setView view) .view .done
  else .done

def onThemeChange (scheme : String) : Handler :=
  match RoomScheme.ofString scheme with
  | none => .done
  | some scheme => .set (·.setTheme scheme) .theme .done

/-- A message of the host's. -/
inductive HostMessage
  | pickRandom (choice : Nat)
  | micGrant (userId : UserId) (needsHand : Bool)
  | micRevoke (userId : UserId)
  | chatLock (locked : Bool)
  | viewChange (view : String) (orgEnabled : Bool)
  | themeChange (scheme : String)

/-- `ownedSession`, then the handler. -/
def asOwner (k : Sock) (session : Option LiveSession) (message : HostMessage) : Handler :=
  if !mayHost k.user k.teaching then .done
  else match ownedSession k.user session with
    | none => .done
    | some session => match message with
      | .pickRandom choice => onPickRandom choice
      | .micGrant userId needsHand => onMicGrant userId needsHand
      | .micRevoke userId => onMicRevoke userId
      | .chatLock locked => onChatLock locked
      | .viewChange view orgEnabled => onViewChange session.course orgEnabled (.ofString view)
      | .themeChange scheme => onThemeChange scheme

inductive Happening
  | connect (c : Nat) (user : JwtPayload)
  | join (c : Nat) (sessionId : SessionId) (teach : Bool) (session : Option LiveSession) (enrolled : Bool)
  | leave (c : Nat)
  /-- The connection goes, or `evictUserFromSession` closes it. -/
  | disconnect (c : Nat)
  | handRaise (c : Nat)
  | handLower (c : Nat) (needsHand : Bool)
  | host (c : Nat) (session : Option LiveSession) (message : HostMessage)

/-- A message of a connected socket; a recorder's is dropped. -/
def received (s : Store) (c : Nat) (handler : Sock → Handler) : Handler :=
  match s.sockets.get c with
  | some k => if k.connected && k.user.recorder.isNone then handler k else .done
  | none => .done

def Store.connect (c : Nat) (user : JwtPayload) (s : Store) : Store :=
  if (s.sockets.get c).isSome then s else { s with sockets := s.sockets.put c (some (Sock.new user)) }

def handler (room : SessionId) (s : Store) : Happening → Handler
  | .connect c user => .call (·.connect c user) .done
  | .join c sessionId teach session enrolled => match s.sockets.get c with
    | some k => onJoin room c k sessionId teach session enrolled
    | none => .done
  | .leave c => received s c (onLeave c)
  | .disconnect c => match s.sockets.get c with
    | some k => if k.connected then handleDisconnect c k else .done
    | none => .done
  | .handRaise c => received s c onHandRaise
  | .handLower c needsHand => received s c fun k => onHandLower k needsHand
  | .host c session message => received s c fun k => asOwner k session message

/-- The room of one session. -/
@[reducible] def system (room : SessionId) : System Store Topic Nat Shown Happening :=
  ⟨.init, Store.shown, Store.reads, handler room⟩

/-! ## What a change concerns -/

variable {room : SessionId} {f : Store → Store} {c d : Nat} {t topic : Topic}

/-- A change of one topic, that leaves the sockets as they are. -/
structure Changes (topic : Topic) (f : Store → Store) : Prop where
  sockets : ∀ s, (f s).sockets = s.sockets
  shown : ∀ s t, topic ≠ t → (f s).shown t = s.shown t

theorem Changes.stirs (hf : Changes topic f) (h : (system room).Stirs f d t) : topic = t := by
  obtain ⟨s, hshown | ⟨hbefore, hafter⟩⟩ := h
  · by_contra hne
    exact hshown (hf.shown s t hne)
  · have hsame : (f s).reads d = s.reads d := by
      unfold Store.reads
      rw [hf.sockets]
    rw [show (f s).reads d = true from hafter, show s.reads d = false from hbefore] at hsame
    cases hsame

/-- A change of a socket concerns it alone, and nobody where it lets no socket in. -/
theorem stirs_setSock {g : Sock → Sock} (h : (system room).Stirs (·.setSock c g) d t) :
    d = c ∧ ∃ k : Sock, (g k).inRoom = true ∧ (g k).connected = true ∧ ¬(k.connected = true ∧ k.inRoom = true) := by
  obtain ⟨s, hshown | ⟨hbefore, hafter⟩⟩ := h
  · exact absurd (by cases t <;> rfl) hshown
  · have hin : ((s.setSock c g).sockets.get d).any (fun k => k.connected && k.inRoom) = true := hafter
    have hout : (s.sockets.get d).any (fun k => k.connected && k.inRoom) = false := hbefore
    unfold Store.setSock at hin
    rw [Pool.get_put] at hin
    by_cases hd : d = c
    · subst hd
      rw [Slots.put_self] at hin
      cases hk : s.sockets.get d with
      | none =>
        rw [hk] at hin
        cases hin
      | some k =>
        rw [hk] at hin hout
        simp only [Option.map_some, Option.any_some, Bool.and_eq_true] at hin
        exact ⟨rfl, k, hin.2, hin.1, by simpa using hout⟩
    · rw [Slots.put_of_ne _ _ hd, hout] at hin
      cases hin

theorem not_stirs_connect {user : JwtPayload} : ¬ (system room).Stirs (·.connect c user) d t := by
  rintro ⟨s, hshown | ⟨hbefore, hafter⟩⟩
  · refine hshown ?_
    show (s.connect c user).shown t = s.shown t
    unfold Store.connect
    split
    · rfl
    · cases t <;> rfl
  · have hin : ((s.connect c user).sockets.get d).any (fun k => k.connected && k.inRoom) = true := hafter
    have hout : (s.sockets.get d).any (fun k => k.connected && k.inRoom) = false := hbefore
    unfold Store.connect at hin
    split at hin
    · rw [hout] at hin
      cases hin
    · -- a new socket is in no room
      rw [show ({ s with sockets := s.sockets.put c (some (Sock.new user)) } : Store).sockets.get = _ from
        Pool.get_put ..] at hin
      by_cases hd : d = c
      · subst hd
        rw [Slots.put_self] at hin
        cases hin
      · rw [Slots.put_of_ne _ _ hd, hout] at hin
        cases hin

theorem changes_removePresence (userId : UserId) : Changes .presence (·.removePresence userId) :=
  ⟨fun _ => rfl, fun _ t hne => by cases t <;> first | rfl | exact absurd rfl hne⟩

theorem changes_raiseHand (user : RoomUser) : Changes .hands (·.raiseHand user) :=
  ⟨fun _ => rfl, fun _ t hne => by cases t <;> first | rfl | exact absurd rfl hne⟩

theorem changes_lowerHand (userId : UserId) : Changes .hands (·.lowerHand userId) :=
  ⟨fun _ => rfl, fun _ t hne => by cases t <;> first | rfl | exact absurd rfl hne⟩

theorem changes_grantMic (userId : UserId) : Changes .speakers (·.grantMic userId) :=
  ⟨fun _ => rfl, fun _ t hne => by cases t <;> first | rfl | exact absurd rfl hne⟩

theorem changes_revokeMic (userId : UserId) : Changes .speakers (·.revokeMic userId) :=
  ⟨fun _ => rfl, fun _ t hne => by cases t <;> first | rfl | exact absurd rfl hne⟩

theorem changes_setChatLock (locked : Bool) : Changes .chatLocked (·.setChatLock locked) :=
  ⟨fun _ => rfl, fun _ t hne => by cases t <;> first | rfl | exact absurd rfl hne⟩

theorem changes_setView (view : StageView) : Changes .view (·.setView view) :=
  ⟨fun _ => rfl, fun _ t hne => by cases t <;> first | rfl | exact absurd rfl hne⟩

theorem changes_setTheme (scheme : RoomScheme) : Changes .theme (·.setTheme scheme) :=
  ⟨fun _ => rfl, fun _ t hne => by cases t <;> first | rfl | exact absurd rfl hne⟩

theorem changes_clearHands : Changes .hands Store.clearHands :=
  ⟨fun _ => rfl, fun _ t hne => by cases t <;> first | rfl | exact absurd rfl hne⟩

theorem changes_showSock (c : Nat) : Changes .presence (·.showSock c) := by
  refine ⟨fun s => ?_, fun s t hne => ?_⟩
  · unfold Store.showSock
    split <;> rfl
  · unfold Store.showSock
    split
    · cases t <;> first | rfl | exact absurd rfl hne
    · rfl

/-! ## Every handler tells what it changes -/

theorem catchUp_tells (ht : .presence ≠ t) : (catchUp c).Tells c t := by
  cases t <;> simp_all [catchUp, Prog.Tells]

theorem entered_sound (c : Nat) (shadow : Bool) : (system room).Sound (entered c shadow) := by
  have hcatch : (system room).Sound (catchUp c) := trivial
  cases shadow with
  | true =>
    refine ⟨fun d t hstirs => ?_, hcatch⟩
    -- the socket that comes in is told every topic
    obtain ⟨rfl, -⟩ := stirs_setSock hstirs
    by_cases ht : .presence = t
    · exact .inl ⟨ht, .inr rfl⟩
    · exact .inr (catchUp_tells ht)
  | false =>
    refine ⟨fun d t hstirs => ?_, fun d t hstirs => ?_, hcatch⟩
    · obtain ⟨rfl, -⟩ := stirs_setSock hstirs
      by_cases ht : .presence = t
      · exact .inl ⟨ht, .inl rfl⟩
      · exact .inr (catchUp_tells ht)
    · exact .inl ⟨(changes_showSock c).stirs hstirs, .inl rfl⟩

theorem onJoin_sound (c : Nat) (k : Sock) (sessionId : SessionId) (teach : Bool) (session : Option LiveSession)
    (enrolled : Bool) : (system room).Sound (onJoin room c k sessionId teach session enrolled) := by
  unfold onJoin
  split
  · trivial
  · split
    · trivial
    · refine ⟨fun d t hstirs => ?_, ?_⟩
      · -- the flags let nobody in
        obtain ⟨-, k', hin, hconn, hnot⟩ := stirs_setSock hstirs
        exact absurd ⟨hconn, hin⟩ hnot
      · split
        · trivial
        · split
          · trivial
          · exact entered_sound c _
          · split
            · exact entered_sound c _
            · trivial

theorem departed_sound (c : Nat) (userId : UserId) : (system room).Sound (departed c userId) := by
  intro s
  show (system room).Sound (ite _ _ _)
  split
  · trivial
  · refine ⟨fun d t hstirs => ?_, fun d t hstirs => ?_, trivial⟩
    · exact .inl ⟨(changes_removePresence _).stirs hstirs, .inl rfl⟩
    · exact .inr (.inl ⟨(changes_lowerHand _).stirs hstirs, .inl rfl⟩)

theorem onLeave_sound (c : Nat) (k : Sock) : (system room).Sound (onLeave c k) := by
  refine ⟨fun d t hstirs => ?_, ?_⟩
  · obtain ⟨-, k', hin, -⟩ := stirs_setSock hstirs
    cases hin
  · split
    · trivial
    · exact departed_sound c _

theorem handleDisconnect_sound (c : Nat) (k : Sock) : (system room).Sound (handleDisconnect c k) := by
  refine ⟨fun d t hstirs => ?_, ?_⟩
  · obtain ⟨-, k', hin, -⟩ := stirs_setSock hstirs
    cases hin
  · split
    · intro s
      show (system room).Sound (ite _ _ _)
      split
      · trivial
      · exact departed_sound c _
    · trivial

theorem onHandRaise_sound (k : Sock) : (system room).Sound (onHandRaise k) := by
  unfold onHandRaise
  split
  · exact ⟨fun d t hstirs => .inl ⟨(changes_raiseHand _).stirs hstirs, .inl rfl⟩, trivial⟩
  · trivial

theorem onHandLower_sound (k : Sock) (needsHand : Bool) : (system room).Sound (onHandLower k needsHand) := by
  unfold onHandLower
  split
  · refine ⟨fun d t hstirs => ?_, ?_⟩
    · obtain rfl := (changes_lowerHand _).stirs hstirs
      split
      · -- whether or not the microphone goes, the hands are shown at the end
        intro s
        show Prog.Tells d Topic.hands (ite _ _ _)
        split <;> simp [Prog.Tells]
      · exact .inl ⟨rfl, .inl rfl⟩
    · split
      · intro s
        show (system room).Sound (ite _ _ _)
        split
        · exact ⟨fun d t hstirs => .inl ⟨(changes_revokeMic _).stirs hstirs, .inl rfl⟩, trivial⟩
        · trivial
      · trivial
  · trivial

theorem onPickRandom_sound (choice : Nat) : (system room).Sound (onPickRandom choice) := by
  intro s
  show (system room).Sound (match s.hands[choice]? with | none => _ | some user => _)
  split
  · trivial
  · intro s
    show (system room).Sound (ite _ _ _)
    split
    · refine ⟨fun d t hstirs => ?_, fun d t hstirs => ?_, trivial⟩
      · exact .inl ⟨changes_clearHands.stirs hstirs, .inl rfl⟩
      · exact .inl ⟨(changes_grantMic _).stirs hstirs, .inl rfl⟩
    · trivial

theorem onMicGrant_sound (userId : UserId) (needsHand : Bool) : (system room).Sound (onMicGrant userId needsHand) := by
  intro s
  show (system room).Sound (ite _ _ _)
  split
  · trivial
  · exact ⟨fun d t hstirs => .inl ⟨(changes_grantMic _).stirs hstirs, .inl rfl⟩, trivial⟩

/-- A setting is emitted as it is written. -/
theorem Changes.set_sound (hf : Changes topic f) : (system room).Sound (.set f topic .done) :=
  ⟨fun _ _ hstirs => .inl (hf.stirs hstirs), trivial⟩

theorem asOwner_sound (k : Sock) (session : Option LiveSession) (message : HostMessage) :
    (system room).Sound (asOwner k session message) := by
  unfold asOwner
  split
  · trivial
  · split
    · trivial
    · cases message with
      | pickRandom choice => exact onPickRandom_sound choice
      | micGrant userId needsHand => exact onMicGrant_sound userId needsHand
      | micRevoke userId => exact ⟨fun d t hstirs => .inl ⟨(changes_revokeMic _).stirs hstirs, .inl rfl⟩, trivial⟩
      | chatLock locked => exact (changes_setChatLock locked).set_sound
      | viewChange view orgEnabled =>
        show (system room).Sound (ite _ _ _)
        split
        · exact (changes_setView _).set_sound
        · trivial
      | themeChange scheme =>
        show (system room).Sound (onThemeChange scheme)
        unfold onThemeChange
        split
        · trivial
        · exact (changes_setTheme _).set_sound

theorem received_sound {s : Store} {h : Sock → Handler} (hh : ∀ k, (system room).Sound (h k)) :
    (system room).Sound (received s c h) := by
  unfold received
  split
  · split
    · exact hh _
    · trivial
  · trivial

theorem handler_sound (s : Store) (e : Happening) : (system room).Sound (handler room s e) := by
  cases e with
  | connect c user => exact ⟨fun d t hstirs => absurd hstirs not_stirs_connect, trivial⟩
  | join c sessionId teach session enrolled =>
    show (system room).Sound (match s.sockets.get c with | some k => _ | none => _)
    split
    · exact onJoin_sound ..
    · trivial
  | leave c => exact received_sound (onLeave_sound c)
  | disconnect c =>
    show (system room).Sound (match s.sockets.get c with | some k => _ | none => _)
    split
    · split
      · exact handleDisconnect_sound ..
      · trivial
    · trivial
  | handRaise c => exact received_sound onHandRaise_sound
  | handLower c needsHand => exact received_sound fun k => onHandLower_sound k needsHand
  | host c session message => exact received_sound fun k => asOwner_sound k session message

/-- However joins, departures and messages are interleaved: once no handler is in flight, every socket in the room was
last told of presence, hands, speakers, chat lock, view and colour scheme just what the room holds. -/
theorem class_sees_room (room : SessionId) (es : List (Announce.Event Happening))
    (s : Announce.State Store Topic Nat Shown)
    (h : run (Announce.step (system room)) (.init (system room)) es = some s) (hquiet : s.Quiet) (c : Nat)
    (hc : s.store.reads c = true) (t : Topic) : s.heard c t = some (s.store.shown t) :=
  heard_of_quiet handler_sound (fun _ => rfl) h hquiet hc t

namespace Example

def teacher : JwtPayload := ⟨"maryam", .instructor, "Maryam", some "org", none, none⟩

def student : JwtPayload := ⟨"yusuf", .student, "Yusuf", some "org", none, none⟩

def row : LiveSession := ⟨"s1", .live, ⟨"c1", some "maryam", some "org", none⟩⟩

/-- Both join at once; a hand is raised while the microphone is granted and the chat locked. -/
def lesson : List (Announce.Event Happening) :=
  [.start (.connect 1 teacher), .start (.connect 2 student)] ++ List.replicate 4 (.advance 0) ++
  [.start (.join 1 "s1" false (some row) false), .start (.join 2 "s1" false (some row) true)] ++
  List.replicate 8 (.advance 0) ++ (List.replicate 12 [.reply, .advance 0]).flatten ++
  [.start (.handRaise 2), .start (.host 1 (some row) (.micGrant "yusuf" true)),
    .start (.host 1 (some row) (.chatLock true))] ++
  List.replicate 6 (.advance 0) ++ (List.replicate 3 [.reply, .advance 0]).flatten

end Example

open Example in
theorem class_sees_lesson : ∃ s, run (Announce.step (system "s1")) (.init (system "s1")) lesson = some s ∧
    s.heard 2 .speakers = some (.ids ["yusuf"]) :=
  ⟨_, rfl, class_sees_room "s1" lesson _ rfl ⟨rfl, rfl⟩ 2 rfl .speakers⟩

end Livetich.Room.Announced
