/-
The cursors and pointers of a session's controllers: `onCursor` and `onPointer` on one socket, with payloads as they
arrive. Both number the messages of a source by one table of the socket, which takes up to 16 sources; what they let
through they relay to the room, up to 25 times a second.
-/
import Livetich.Code.Focus
import Livetich.Lib.Watermarks

namespace Livetich.Code.Pointers

open TransSys Livetich.Lib Livetich.Lib.Watermarks
open Focus (field isPosition isSelection isSafeSeedPath)
open Livetich.Js (Json)
open Livetich.Sockets (Failure)

/-! ## Data -/

/-- What the two handlers read and write of a socket. -/
structure Socket where
  sock : CodeSock
  pointerWindowStartedAt : Int
  pointerEventCount : Nat
  cursorWindowStartedAt : Int
  cursorEventCount : Nat
  sourceSequences : Table String Int

/-- What is sent to the others in a room. -/
structure Relay where
  event : String
  sessionId : SessionId
  payload : Json

inductive Reply
  | silent
  | failed (failure : Failure)
  | relayed (relay : Relay)

structure Handled where
  socket : Socket
  /-- The source and the number that `acceptSourceSequence` has let through. -/
  accepted : Option (String × Int)
  reply : Reply

/-! ## Checks -/

/-- `typeof value === 'object'`, and not `null`. -/
def isObject : Json → Bool
  | .arr _ | .obj _ => true
  | _ => false

def text : Option Json → Option String
  | some (.str s) => some s
  | _ => none

/-- `Number.isSafeInteger`. -/
def safeInteger : Option Json → Option Int
  | some (.num n) => n.toInteger.filter fun i => -(2 ^ 53 - 1) ≤ i ∧ i ≤ 2 ^ 53 - 1
  | _ => none

/-- `Boolean(value)`. -/
def truthy : Option Json → Bool
  | none | some .null => false
  | some (.bool b) => b
  | some (.num n) => !n.isNaN && n != .ofInt 0
  | some (.str s) => s != ""
  | some (.arr _) | some (.obj _) => true

/-- `/^[A-Za-z0-9_-]{8,128}$/`. -/
def isSourceId (s : String) : Bool :=
  8 ≤ s.length && s.length ≤ 128 && s.toList.all fun c => c.isAlphanum || c == '_' || c == '-'

/-- The session of a message, if the socket is in its room. -/
def roomOf (k : CodeSock) (p : Json) : Option SessionId := (text (field p "sessionId")).filter k.inRoom

/-- The source and the number of a message in an editor, if its path, its source, its number and its position pass. -/
def editorSource (p : Json) : Option (String × Int) := do
  let path ← text (field p "path")
  let sourceId ← text (field p "sourceId")
  let sequence ← safeInteger (field p "sequence")
  if isSafeSeedPath path && isSourceId sourceId && decide (1 ≤ sequence) && isPosition p then some (sourceId, sequence)
  else none

def cursorSource (p : Json) : Option (String × Int) :=
  if (field p "selection").all isSelection then editorSource p else none

def pointerSource (p : Json) : Option (String × Int) :=
  if text (field p "kind") = some "move" ∨ text (field p "kind") = some "click" then editorSource p else none

/-! ## The handlers -/

def acceptSourceSequence (sourceSequences : Table String Int) (sourceId : String) (sequence : Int) :
    Option (Table String Int) :=
  let previous := (sourceSequences.get sourceId).getD 0
  if sequence ≤ previous then none
  else if previous = 0 ∧ sourceSequences.entries.length ≥ 16 then none
  else some (sourceSequences.set sourceId sequence)

def Socket.cursorWindow (k : Socket) (now : Int) : Socket :=
  if now - k.cursorWindowStartedAt ≥ 1000 then { k with cursorWindowStartedAt := now, cursorEventCount := 0 } else k

def Socket.pointerWindow (k : Socket) (now : Int) : Socket :=
  if now - k.pointerWindowStartedAt ≥ 1000 then { k with pointerWindowStartedAt := now, pointerEventCount := 0 } else k

/-- `{ ...p, [key]: value }`. -/
def assign (p : Json) (key : String) (value : Json) : Json :=
  match p with
  | .obj entries =>
    if entries.any (·.1 == key) then .obj (entries.map fun e => if e.1 = key then (e.1, value) else e)
    else .obj (entries ++ [(key, value)])
  | p => p

/-- A property as it is; what is `undefined` is not sent. -/
def copied (p : Json) (key : String) : List (String × Json) := ((field p key).map (key, ·)).toList

/-- The guards of both handlers. -/
def asControllerOf (k : Socket) (p : Json) (handle : SessionId → Handled) : Handled :=
  if !isObject p then ⟨k, none, .silent⟩
  else
    match roomOf k.sock p with
    | none => ⟨k, none, .failed notInRoom⟩
    | some sessionId => if !k.sock.controls sessionId then ⟨k, none, .silent⟩ else handle sessionId

/-- A message whose source and number are let through is handled. -/
def inSequence (k : Socket) (source : Option (String × Int)) (handle : Socket → Socket × Reply) : Handled :=
  match source with
  | none => ⟨k, none, .silent⟩
  | some (sourceId, sequence) =>
    match acceptSourceSequence k.sourceSequences sourceId sequence with
    | none => ⟨k, none, .silent⟩
    | some sourceSequences =>
      let (k, reply) := handle { k with sourceSequences }
      ⟨k, some (sourceId, sequence), reply⟩

def onCursor (k : Socket) (now : Int) (p : Json) : Handled :=
  asControllerOf k p fun sessionId =>
    inSequence k (cursorSource p) fun k =>
      let k := k.cursorWindow now
      if k.cursorEventCount ≥ 25 then (k, .silent)
      else
        ({ k with cursorEventCount := k.cursorEventCount + 1 },
          .relayed ⟨"code:cursor", sessionId, assign p "controllerUserId" (.str k.sock.user.sub)⟩)

/-- What is relayed of a pointer in an editor. -/
def editorPointer (k : CodeSock) (p : Json) : Json :=
  .obj (copied p "sessionId" ++ [("controllerUserId", .str k.user.sub)] ++ copied p "sourceId" ++ copied p "sequence" ++
    copied p "path" ++ [("surface", .str "editor")] ++ copied p "kind" ++ copied p "line" ++ copied p "ch" ++
    [("isClick", .bool (text (field p "kind") == some "click"))])

/-- What is relayed of a pointer in the sidebar. -/
def sidebarPointer (k : CodeSock) (p : Json) : Json :=
  .obj (copied p "sessionId" ++ [("controllerUserId", .str k.user.sub)] ++ copied p "target" ++
    [("isFolder", .bool (truthy (field p "isFolder"))), ("surface", .str "sidebar"),
      ("isClick", .bool (truthy (field p "isClick")))])

/-- The target of a pointer in the sidebar, if it passes. -/
def sidebarTarget (p : Json) : Option String :=
  if text (field p "surface") = some "sidebar" then
    (text (field p "target")).filter fun target => jsLength target.toList ≤ 512 && isSafeSeedPath target
  else none

def onPointer (k : Socket) (now : Int) (p : Json) : Handled :=
  asControllerOf k p fun sessionId =>
    if text (field p "surface") = some "editor" then
      inSequence k (pointerSource p) fun k =>
        let k := k.pointerWindow now
        if text (field p "kind") = some "move" ∧ k.pointerEventCount ≥ 25 then (k, .silent)
        else
          ({ k with pointerEventCount := k.pointerEventCount + 1 },
            .relayed ⟨"code:pointer", sessionId, editorPointer k.sock p⟩)
    else
      match sidebarTarget p with
      | none => ⟨k, none, .silent⟩
      | some _ => ⟨k, none, .relayed ⟨"code:pointer", sessionId, sidebarPointer k.sock p⟩⟩

/-! ## Runs -/

structure State where
  socket : Socket
  /-- What has been let through, in order. -/
  accepted : List (String × Int)
  /-- What has been relayed, in order. -/
  relayed : List Relay

inductive Event
  | cursor (now : Int) (p : Json)
  | pointer (now : Int) (p : Json)
  /-- The other handlers change which rooms the socket is in and which sessions it controls. -/
  | other (sock : CodeSock)

def Reply.relays : Reply → List Relay
  | .relayed relay => [relay]
  | _ => []

/-- The state after a handler. -/
def State.after (s : State) (h : Handled) : State where
  socket := h.socket
  accepted := s.accepted ++ h.accepted.toList
  relayed := s.relayed ++ h.reply.relays

def handle (k : Socket) : Event → Handled
  | .cursor now p => onCursor k now p
  | .pointer now p => onPointer k now p
  | .other sock => ⟨{ k with sock }, none, .silent⟩

def step (s : State) (e : Event) : Option State := some (s.after (handle s.socket e))

/-- A socket that has authenticated. -/
def start (sock : CodeSock) (now : Int) : State := ⟨⟨sock, now, 0, now, 0, Table.empty⟩, [], []⟩

/-- The source and the number of a message that comes to `acceptSourceSequence`. -/
def Event.asks (k : CodeSock) : Event → Option (String × Int)
  | .cursor _ p => if (roomOf k p).any k.controls then cursorSource p else none
  | .pointer _ p =>
    if (roomOf k p).any k.controls then
      if text (field p "surface") = some "editor" then pointerSource p else none
    else none
  | .other _ => none

/-- The source and the number of what is relayed. -/
def Relay.source (r : Relay) : Option (String × Int) := do
  let sourceId ← text (field r.payload "sourceId")
  let sequence ← safeInteger (field r.payload "sequence")
  some (sourceId, sequence)

/-! ## What is relayed -/

theorem field_cons (key other : String) (value : Json) (rest : List (String × Json)) :
    field (.obj ((key, value) :: rest)) other = if key = other then some value else field (.obj rest) other := by
  show (((key, value) :: rest).find? _).map _ = _
  by_cases h : key = other
  · rw [List.find?_cons_of_pos (by simpa using h), if_pos h]
    rfl
  · rw [List.find?_cons_of_neg (by simpa using h), if_neg h]
    rfl

theorem field_assign (p : Json) {key other : String} (value : Json) (h : other ≠ key) :
    field (assign p key value) other = field p other := by
  unfold assign
  cases p with
  | obj entries =>
    dsimp only
    split
    · have hkeys : ((·.1 == other) ∘ fun e : String × Json => if e.1 = key then (e.1, value) else e) =
          (·.1 == other) := by
        funext e
        dsimp only [Function.comp_apply]
        split <;> rfl
      show ((entries.map _).find? _).map _ = (entries.find? _).map _
      rw [List.find?_map, hkeys, Option.map_map]
      refine Option.map_congr fun e he => ?_
      have hother : e.1 = other := by simpa using List.find?_some he
      rw [Function.comp_apply, if_neg (hother ▸ h)]
    · have hkey : [(key, value)].find? (·.1 == other) = none := by simp [Ne.symm h]
      show ((entries ++ [(key, value)]).find? _).map _ = (entries.find? _).map _
      rw [List.find?_append, hkey, Option.or_none]
  | null => rfl
  | bool b => rfl
  | num n => rfl
  | str s => rfl
  | arr items => rfl

theorem field_copied (p : Json) (key other : String) (rest : List (String × Json)) :
    field (.obj (copied p key ++ rest)) other =
      (if key = other then field p other else none).or (field (.obj rest) other) := by
  unfold copied
  cases hfield : field p key with
  | none =>
    by_cases h : key = other
    · rw [if_pos h, ← h, hfield]
      rfl
    · rw [if_neg h]
      rfl
  | some value =>
    show field (.obj ((key, value) :: rest)) other = _
    rw [field_cons]
    by_cases h : key = other
    · rw [if_pos h, if_pos h, ← h, hfield]
      rfl
    · rw [if_neg h, if_neg h]
      rfl

theorem field_nil (key : String) : field (.obj []) key = none := rfl

theorem editorSource_spec {p : Json} {a : String × Int} (h : editorSource p = some a) :
    text (field p "sourceId") = some a.1 ∧ safeInteger (field p "sequence") = some a.2 ∧ 1 ≤ a.2 := by
  obtain ⟨path, -, h⟩ := Option.bind_eq_some_iff.1 h
  obtain ⟨sourceId, hsourceId, h⟩ := Option.bind_eq_some_iff.1 h
  obtain ⟨sequence, hsequence, h⟩ := Option.bind_eq_some_iff.1 h
  split at h
  · rename_i hchecks
    cases h
    simp only [Bool.and_eq_true, decide_eq_true_eq] at hchecks
    exact ⟨hsourceId, hsequence, hchecks.1.2⟩
  · cases h

theorem cursorSource_eq_some {p : Json} {a : String × Int} (h : cursorSource p = some a) : editorSource p = some a := by
  unfold cursorSource at h
  split at h
  · exact h
  · cases h

theorem pointerSource_eq_some {p : Json} {a : String × Int} (h : pointerSource p = some a) :
    editorSource p = some a := by
  unfold pointerSource at h
  split at h
  · exact h
  · cases h

/-- What is relayed with the source and the number of its message has them for its own. -/
theorem source_eq {r : Relay} {p : Json} {a : String × Int} (h : editorSource p = some a)
    (hsame : ∀ key ∈ ["sourceId", "sequence"], field r.payload key = field p key) : r.source = some a := by
  obtain ⟨hsourceId, hsequence, -⟩ := editorSource_spec h
  unfold Relay.source
  rw [hsame "sourceId" (by simp), hsame "sequence" (by simp), hsourceId, hsequence]
  rfl

theorem cursor_source {p : Json} {a : String × Int} (h : editorSource p = some a) (sessionId : SessionId)
    (value : Json) : (Relay.mk "code:cursor" sessionId (assign p "controllerUserId" value)).source = some a :=
  source_eq h fun key hkey => field_assign p value (by rintro rfl; simp at hkey)

theorem editorPointer_source {p : Json} {a : String × Int} (h : editorSource p = some a) (sessionId : SessionId)
    (k : CodeSock) : (Relay.mk "code:pointer" sessionId (editorPointer k p)).source = some a := by
  refine source_eq h fun key hkey => ?_
  unfold editorPointer
  simp only [List.mem_cons, List.not_mem_nil, or_false] at hkey
  rcases hkey with rfl | rfl <;> simp [field_copied, field_cons, field_nil]

theorem sidebarPointer_source (k : CodeSock) (p : Json) (sessionId : SessionId) :
    (Relay.mk "code:pointer" sessionId (sidebarPointer k p)).source = none := by
  have hfield : field (sidebarPointer k p) "sourceId" = none := by
    unfold sidebarPointer
    simp [field_copied, field_cons, field_nil]
  unfold Relay.source
  rw [hfield]
  rfl

/-! ## What a message does -/

/-- The numbers of a table begin at 1, so that the 0 of a source without one is no number. -/
theorem acceptSourceSequence_eq {t : Table String Int} {n : Int} (hpos : ∀ id last, t.get id = some last → 1 ≤ last)
    (hn : 1 ≤ n) (id : String) : acceptSourceSequence t id n = Watermarks.pass 16 t id n := by
  unfold acceptSourceSequence Watermarks.pass
  cases hget : t.get id with
  | some last =>
    -- A source with a number is never taken for a new one, whether or not the table is full.
    have hlast := hpos id last hget
    dsimp only [Option.getD_some]
    have hzero : ¬ (last = 0 ∧ t.entries.length ≥ 16) := fun h => by omega
    rw [if_neg hzero]
    by_cases hle : n ≤ last
    · rw [if_pos hle, if_neg (by omega)]
    · rw [if_neg hle, if_pos (by omega)]
  | none =>
    dsimp only [Option.getD_none]
    rw [if_neg (by omega : ¬ n ≤ 0)]
    by_cases hfull : t.entries.length ≥ 16
    · rw [if_pos ⟨rfl, hfull⟩, if_neg (by omega)]
    · rw [if_neg fun h => hfull h.2, if_pos (by omega)]

/-- A message is passed over, when it asks for nothing or is refused; or its source and its number are let through, and
what is relayed of it has these. -/
inductive Turn (k : Socket) (asked : Option (String × Int)) (h : Handled) : Prop
  | skipped (refused : ∀ a ∈ asked, acceptSourceSequence k.sourceSequences a.1 a.2 = none)
      (accepted : h.accepted = none) (same : h.socket.sourceSequences = k.sourceSequences)
      (relays : ∀ r ∈ h.reply.relays, asked = none ∧ r.source = none)
  | passed (a : String × Int) (asks : asked = some a)
      (passes : acceptSourceSequence k.sourceSequences a.1 a.2 = some h.socket.sourceSequences)
      (accepted : h.accepted = some a) (relays : ∀ r ∈ h.reply.relays, r.source = some a)

theorem Turn.silent {k : Socket} {asked : Option (String × Int)} {reply : Reply} (hreply : reply.relays = [])
    (hrefused : ∀ a ∈ asked, acceptSourceSequence k.sourceSequences a.1 a.2 = none) : Turn k asked ⟨k, none, reply⟩ :=
  .skipped hrefused rfl rfl fun r hr => by rw [hreply] at hr; cases hr

/-- What is let through was asked for. -/
theorem Turn.asks_accepted {k : Socket} {asked : Option (String × Int)} {h : Handled} (hturn : Turn k asked h)
    {a : String × Int} (ha : h.accepted = some a) : asked = some a := by
  cases hturn with
  | skipped refused accepted same relays =>
    rw [accepted] at ha
    cases ha
  | passed b asks passes accepted relays =>
    rw [accepted] at ha
    rw [asks, ha]

/-- What is relayed has the source and the number that were asked for. -/
theorem Turn.source_relayed {k : Socket} {asked : Option (String × Int)} {h : Handled} (hturn : Turn k asked h)
    {r : Relay} (hr : r ∈ h.reply.relays) : r.source = asked := by
  cases hturn with
  | skipped refused accepted same relays => rw [(relays r hr).1, (relays r hr).2]
  | passed a asks passes accepted relays => rw [asks, relays r hr]

/-- A message is relayed once at most, and only once it is let through. -/
theorem Turn.relays_sublist {k : Socket} {asked : Option (String × Int)} {h : Handled} (hturn : Turn k asked h) :
    (h.reply.relays.filterMap Relay.source).Sublist h.accepted.toList := by
  cases hturn with
  | skipped refused accepted same relays =>
    rw [List.filterMap_eq_nil_iff.2 fun r hr => (relays r hr).2]
    exact List.nil_sublist _
  | passed a asks passes accepted relays =>
    rw [accepted]
    cases hreply : h.reply with
    | silent => exact List.nil_sublist _
    | failed failure => exact List.nil_sublist _
    | relayed r =>
      have hsource : r.source = some a := relays r (by rw [hreply]; exact List.mem_singleton_self r)
      simp [Reply.relays, hsource]

theorem roomOf_eq_none {k : CodeSock} {p : Json} (h : isObject p = false) : roomOf k p = none := by
  cases p with
  | arr items => cases h
  | obj entries => cases h
  | null => rfl
  | bool b => rfl
  | num n => rfl
  | str s => rfl

@[simp] theorem Socket.cursorWindow_sourceSequences (k : Socket) (now : Int) :
    (k.cursorWindow now).sourceSequences = k.sourceSequences := by
  unfold cursorWindow
  split <;> rfl

@[simp] theorem Socket.pointerWindow_sourceSequences (k : Socket) (now : Int) :
    (k.pointerWindow now).sourceSequences = k.sourceSequences := by
  unfold pointerWindow
  split <;> rfl

theorem turn_asControllerOf {k : Socket} {p : Json} {asked : Option (String × Int)} {handle : SessionId → Handled}
    (h : ∀ sessionId, Turn k asked (handle sessionId)) :
    Turn k (if (roomOf k.sock p).any k.sock.controls then asked else none) (asControllerOf k p handle) := by
  have hnone : ∀ reply : Reply, reply.relays = [] → Turn k none ⟨k, none, reply⟩ := fun reply hreply =>
    .silent hreply fun a ha => by cases ha
  unfold asControllerOf
  cases hobject : isObject p with
  | false =>
    -- What is no object names no session, so it asks for nothing either.
    rw [roomOf_eq_none hobject]
    exact hnone .silent rfl
  | true =>
    cases hroom : roomOf k.sock p with
    | none => exact hnone (.failed notInRoom) rfl
    | some sessionId =>
      cases hcontrols : k.sock.controls sessionId with
      | false =>
        simp only [Option.any_some, hcontrols, Bool.not_true, Bool.not_false, Bool.false_eq_true, if_false, if_true]
        exact hnone .silent rfl
      | true =>
        simp only [Option.any_some, hcontrols, Bool.not_true, Bool.false_eq_true, if_false, if_true]
        exact h sessionId

theorem turn_inSequence {k : Socket} {source : Option (String × Int)} {handle : Socket → Socket × Reply}
    (hsame : ∀ k, (handle k).1.sourceSequences = k.sourceSequences)
    (hrelays : ∀ a, source = some a → ∀ k, ∀ r ∈ (handle k).2.relays, r.source = some a) :
    Turn k source (inSequence k source handle) := by
  unfold inSequence
  cases source with
  | none => exact .silent rfl fun a ha => by cases ha
  | some a =>
    obtain ⟨sourceId, sequence⟩ := a
    dsimp only
    cases haccept : acceptSourceSequence k.sourceSequences sourceId sequence with
    | none =>
      refine .silent rfl fun a ha => ?_
      cases ha
      exact haccept
    | some sourceSequences =>
      -- It is let through even where the window is full and nothing is relayed.
      refine .passed (sourceId, sequence) rfl ?_ rfl fun r hr => hrelays _ rfl _ r hr
      dsimp only
      rw [hsame]
      exact haccept

theorem onCursor_turn (k : Socket) (now : Int) (p : Json) :
    Turn k ((Event.cursor now p).asks k.sock) (onCursor k now p) := by
  refine turn_asControllerOf fun sessionId => turn_inSequence (fun k => ?_) fun a ha k r hr => ?_
  · dsimp only
    split <;> simp
  · dsimp only at hr
    split at hr
    · cases hr
    · rw [List.mem_singleton.1 hr]
      exact cursor_source (cursorSource_eq_some ha) _ _

theorem onPointer_turn (k : Socket) (now : Int) (p : Json) :
    Turn k ((Event.pointer now p).asks k.sock) (onPointer k now p) := by
  refine turn_asControllerOf fun sessionId => ?_
  split
  · refine turn_inSequence (fun k => ?_) fun a ha k r hr => ?_
    · dsimp only
      split <;> simp
    · dsimp only at hr
      split at hr
      · cases hr
      · rw [List.mem_singleton.1 hr]
        exact editorPointer_source (pointerSource_eq_some ha) _ _
  · -- in the sidebar no source is asked for
    split
    · exact .silent rfl fun a ha => by cases ha
    · refine .skipped (fun a ha => by cases ha) rfl rfl fun r hr => ⟨rfl, ?_⟩
      rw [List.mem_singleton.1 hr]
      exact sidebarPointer_source k.sock p sessionId

theorem handle_turn (k : Socket) (e : Event) : Turn k (e.asks k.sock) (handle k e) := by
  cases e with
  | cursor now p => exact onCursor_turn k now p
  | pointer now p => exact onPointer_turn k now p
  | other sock => exact .skipped (fun a ha => by cases ha) rfl rfl fun r hr => by cases hr

/-- Only numbers from 1 on come to the table. -/
theorem asks_pos {k : CodeSock} {e : Event} {a : String × Int} (h : e.asks k = some a) : 1 ≤ a.2 := by
  cases e with
  | cursor now p =>
    obtain ⟨-, h⟩ := Option.ite_none_right_eq_some.1 h
    exact (editorSource_spec (cursorSource_eq_some h)).2.2
  | pointer now p =>
    obtain ⟨-, h⟩ := Option.ite_none_right_eq_some.1 h
    obtain ⟨-, h⟩ := Option.ite_none_right_eq_some.1 h
    exact (editorSource_spec (pointerSource_eq_some h)).2.2
  | other sock => cases h

/-! ## What a run does -/

/-- What the table, what has been let through and what has been relayed have to do with each other. -/
structure Traced (s : State) : Prop where
  kept : Kept 16 s.socket.sourceSequences s.accepted
  positive : ∀ a ∈ s.accepted, 1 ≤ a.2
  relays : (s.relayed.filterMap Relay.source).Sublist s.accepted

theorem traced_start (sock : CodeSock) (now : Int) : Traced (start sock now) where
  kept := kept_empty 16
  positive a ha := by cases ha
  relays := List.Sublist.refl []

section

variable {s t : State} {e : Event}

theorem Traced.accepts_eq (h : Traced s) {a : String × Int} (ha : e.asks s.socket.sock = some a) :
    acceptSourceSequence s.socket.sourceSequences a.1 a.2 = Watermarks.pass 16 s.socket.sourceSequences a.1 a.2 := by
  refine acceptSourceSequence_eq (fun id last hlast => ?_) (asks_pos ha) a.1
  rw [h.kept.last] at hlast
  exact h.positive (id, last) (mem_numbers.1 (List.mem_of_getLast? hlast))

theorem traced_step (h : Traced s) (hstep : step s e = some t) : Traced t := by
  cases hstep
  have hturn := handle_turn s.socket e
  refine ⟨?_, fun a ha => ?_, ?_⟩
  · show Kept 16 (handle s.socket e).socket.sourceSequences (s.accepted ++ (handle s.socket e).accepted.toList)
    cases hturn with
    | skipped refused accepted same relays =>
      rw [same, accepted, Option.toList_none, List.append_nil]
      exact h.kept
    | passed a asks passes accepted relays =>
      rw [h.accepts_eq asks] at passes
      rw [accepted]
      exact h.kept.pass passes
  · rcases List.mem_append.1 ha with ha | ha
    · exact h.positive a ha
    · exact asks_pos (hturn.asks_accepted (Option.mem_toList.1 ha))
  · show ((s.relayed ++ (handle s.socket e).reply.relays).filterMap Relay.source).Sublist _
    rw [List.filterMap_append]
    exact h.relays.append hturn.relays_sublist

theorem traced_run {sock : CodeSock} {now : Int} {es : List Event} (h : run step (start sock now) es = some s) :
    Traced s :=
  run_keeps (fun _ _ _ => traced_step) (traced_start sock now) h

/-- A message that asks is let through just when its number is greater than all of its source that were, and its source
is known or is one of the first 16. -/
theorem Traced.accepted_iff (h : Traced s) (hstep : step s e = some t) {a : String × Int}
    (ha : e.asks s.socket.sock = some a) : t.accepted = s.accepted ++ [a] ↔
      (∀ m ∈ numbers a.1 s.accepted, m < a.2) ∧
        (a.1 ∈ s.accepted.map (·.1) ∨ (s.accepted.map (·.1)).dedup.length < 16) := by
  cases hstep
  rw [← h.kept.pass_isSome_iff, ← h.accepts_eq ha]
  show s.accepted ++ (handle s.socket e).accepted.toList = _ ↔ _
  cases handle_turn s.socket e with
  | skipped refused accepted same relays =>
    rw [refused a ha, accepted]
    simp
  | passed b asks passes accepted relays =>
    cases asks.symm.trans ha
    rw [passes, accepted]
    simp

/-- What is relayed is new: it is let through by the message that it is relayed of. -/
theorem Traced.relayed_new (h : Traced s) {r : Relay} (hr : r ∈ (handle s.socket e).reply.relays) {id : String}
    {n : Int} (hsource : r.source = some (id, n)) : ∀ m ∈ numbers id s.accepted, m < n := by
  cases handle_turn s.socket e with
  | skipped refused accepted same relays =>
    rw [(relays r hr).2] at hsource
    cases hsource
  | passed a asks passes accepted relays =>
    rw [relays r hr] at hsource
    cases hsource
    rw [h.accepts_eq asks] at passes
    exact ((h.kept.pass_isSome_iff id n).1 (by rw [passes]; rfl)).1

end

/-- In every run of one socket, whatever its messages: the numbers that are let through, and so those that are relayed,
increase for each source; at most 16 sources are let through; and the next message is let through just when its number
is greater than those of its source and its source is known or there are fewer than 16, so that nothing is relayed whose
number, or a greater one, has been let through. -/
theorem sources_increase {sock : CodeSock} {now : Int} {es : List Event} {s : State}
    (hrun : run step (start sock now) es = some s) :
    (∀ id, (numbers id s.accepted).Pairwise (· < ·)) ∧
    (∀ id, (numbers id (s.relayed.filterMap Relay.source)).Pairwise (· < ·)) ∧
    (s.accepted.map (·.1)).dedup.length ≤ 16 ∧
    ∀ e t, step s e = some t →
      (∀ id n, e.asks s.socket.sock = some (id, n) → (t.accepted = s.accepted ++ [(id, n)] ↔
        (∀ m ∈ numbers id s.accepted, m < n) ∧
          (id ∈ s.accepted.map (·.1) ∨ (s.accepted.map (·.1)).dedup.length < 16))) ∧
      ∀ new, t.relayed = s.relayed ++ new → ∀ r ∈ new, r.source = e.asks s.socket.sock ∧
        ∀ id n, r.source = some (id, n) → ∀ m ∈ numbers id s.accepted, m < n := by
  have htraced := traced_run hrun
  refine ⟨htraced.kept.increasing, fun id => ?_, ?_, fun e t hstep => ⟨fun id n hasks => ?_, fun new hnew r hr => ?_⟩⟩
  · exact (htraced.kept.increasing id).sublist (numbers_sublist htraced.relays id)
  · rw [← htraced.kept.length_eq]
    exact htraced.kept.room
  · exact htraced.accepted_iff hstep hasks
  · cases hstep
    have hrelays : (handle s.socket e).reply.relays = new := List.append_cancel_left hnew
    rw [← hrelays] at hr
    exact ⟨(handle_turn s.socket e).source_relayed hr, fun id n hsource => htraced.relayed_new hr hsource⟩

namespace Example

def sources : List String := (List.range 17).map fun i => "source-" ++ String.singleton (Char.ofNat (97 + i))

/-- A pointer or a cursor in the editor. -/
def numbered (sourceId : String) (sequence : Int) : Json :=
  .obj [("sessionId", .str "session"), ("path", .str "README.md"), ("sourceId", .str sourceId),
    ("sequence", .num (.ofInt sequence)), ("line", .num (.ofInt 0)), ("ch", .num (.ofInt 4)),
    ("surface", .str "editor"), ("kind", .str "move")]

/-- A pointer of each of 17 sources, and then the cursor of the first of them, twice. -/
def crowded : List Event :=
  sources.map (fun sourceId => .pointer 0 (numbered sourceId 3)) ++
    [.cursor 10 (numbered "source-a" 3), .cursor 20 (numbered "source-a" 5)]

end Example

open Example Focus.Example in
theorem crowded_increase : ∃ s, run step (start host 0) crowded = some s ∧
    s.accepted = (sources.take 16).map (·, 3) ++ [("source-a", 5)] ∧
    (∀ id, (numbers id s.accepted).Pairwise (· < ·)) ∧
    (∀ id, (numbers id (s.relayed.filterMap Relay.source)).Pairwise (· < ·)) ∧
    (s.accepted.map (·.1)).dedup.length ≤ 16 := by
  have haccepted : (run step (start host 0) crowded).map (·.accepted) =
      some ((sources.take 16).map (·, 3) ++ [("source-a", 5)]) := by
    decide +kernel
  obtain ⟨s, hrun, hs⟩ := Option.map_eq_some_iff.1 haccepted
  obtain ⟨hincreasing, hrelayed, hroom, -⟩ := sources_increase hrun
  exact ⟨s, hrun, hs, hincreasing, hrelayed, hroom⟩

end Livetich.Code.Pointers
