/-
One proxied request: the entry `TunnelService` keeps for it, its timer, and the Express response that the host's
messages, the timeout and the viewer's abort write to. Once a byte has gone out a response takes no header, and `json`
throws; what a `try` catches of a handler stays done up to the throw.
-/
import Livetich.Js.Number
import Livetich.Lib.TransSys

namespace Livetich.Tunnel

open TransSys
open Livetich.Js (Number)

/-! ## The Express response -/

inductive Phase
  | open_
  | headersSent
  | ended
  deriving DecidableEq

inductive Body
  | bytes (bytes : List UInt8)
  | json (error message : String)
  deriving DecidableEq

structure Response where
  phase : Phase
  statusCode : Int
  headers : List (String × List String)
  body : List Body
  /-- How often the response was ended. -/
  ends : Nat
  /-- Something was written after the end. -/
  late : Bool
  /-- The viewer went away before the end. -/
  closed : Bool
  deriving DecidableEq

namespace Response

def new : Response := ⟨.open_, 200, [], [], 0, false, false⟩

/-- `res.status`, which wants a whole number of three digits; it has no effect once the head is out. -/
def status (res : Response) (statusCode : Number) : Option Response :=
  match statusCode.toInteger with
  | some code =>
    if 100 ≤ code ∧ code ≤ 999 then
      some (if res.phase = .open_ then { res with statusCode := code } else res)
    else none
  | none => none

/-- The characters of a token. -/
def isTokenChar (c : Char) : Bool := c.isAlphanum || "^_`-!#$%&'*+.|~".toList.contains c

def validName (name : String) : Bool := !name.isEmpty && name.toList.all isTokenChar

def validValue (value : String) : Bool :=
  value.toList.all fun c => c.toNat = 9 || (32 ≤ c.toNat && c.toNat ≤ 126) || (128 ≤ c.toNat && c.toNat ≤ 255)

/-- `res.setHeader`, which replaces a header of that name. -/
def setHeader (res : Response) (name : String) (values : List String) : Option Response :=
  if res.phase = .open_ ∧ validName name = true ∧ values.all validValue = true then
    some { res with headers := (res.headers.filter fun h => h.1.toLower != name.toLower) ++ [(name, values)] }
  else none

/-- The headers of a list as far as they are valid. -/
def setHeaders : Response → List (String × List String) → Response
  | res, [] => res
  | res, (name, values) :: rest => match res.setHeader name values with
    | some res' => setHeaders res' rest
    | none => res

/-- `res.write`: the head goes out with the first bytes. -/
def write (res : Response) (bytes : List UInt8) : Response :=
  if res.phase = .ended then { res with late := true }
  else { res with phase := .headersSent, body := res.body ++ [.bytes bytes] }

/-- `res.end`. -/
def end_ (res : Response) : Response := { res with phase := .ended, ends := res.ends + 1 }

/-- `res.json`, which sets a header of its own and so throws once the head is out. -/
def json (res : Response) (error message : String) : Option Response :=
  if res.phase = .open_ then
    some { res with
      headers := (res.headers.filter fun h => h.1.toLower != "content-type") ++
        [("Content-Type", ["application/json; charset=utf-8"])]
      body := res.body ++ [.json error message], phase := .ended, ends := res.ends + 1 }
  else none

/-- `res.status(statusCode).json(...)` in a `try` that ignores what is thrown. -/
def tryJson (res : Response) (statusCode : Int) (error message : String) : Response :=
  let res := (res.status (.ofInt statusCode)).getD res
  (res.json error message).getD res

end Response

/-! ## The pending entry -/

structure Pending where
  headersSent : Bool
  deriving DecidableEq

inductive Timer
  | armed
  | cleared
  | fired
  deriving DecidableEq

/-- `clearTimeout`. -/
def Timer.clear : Timer → Timer
  | .armed => .cleared
  | t => t

/-- A request, from `registerPendingRequest` on; `pending` is its entry in the map. -/
structure Request where
  pending : Option Pending
  timer : Timer
  res : Response
  deriving DecidableEq

def Request.registered : Request := ⟨some ⟨false⟩, .armed, .new⟩

/-- A response message, without its request id. -/
inductive Frame
  /-- `headers` is `none` where the message has no such object. -/
  | headers (statusCode : Number) (headers : Option (List (String × List String)))
  /-- What `Buffer.from` makes of the chunk; `none` where it throws. -/
  | chunk (bytes : Option (List UInt8))
  | end_
  | error (message : String)
  deriving DecidableEq

namespace Request

/-- Headers that would keep the preview out of its frame, and hop-by-hop headers. -/
def dropped : List String :=
  ["x-frame-options", "frame-ancestors", "transfer-encoding", "connection", "keep-alive"]

def sanitize (headers : List (String × List String)) : List (String × List String) :=
  headers.filter fun h => !dropped.contains h.1.toLower

def handleResponseHeaders (x : Request) (statusCode : Number) (headers : Option (List (String × List String))) :
    Request :=
  match x.pending with
  | none => x
  | some p =>
    if p.headersSent then x
    else
      -- noted before anything is applied
      let x := { x with pending := some ⟨true⟩ }
      match headers, x.res.status statusCode with
      | some headers, some res => { x with res := res.setHeaders (sanitize headers) }
      | _, _ => x

def handleResponseChunk (x : Request) (bytes : Option (List UInt8)) : Request :=
  match x.pending, bytes with
  | some _, some bytes => { x with res := x.res.write bytes }
  | _, _ => x

def handleResponseEnd (x : Request) : Request :=
  match x.pending with
  | none => x
  | some _ => { pending := none, timer := x.timer.clear, res := x.res.end_ }

def handleResponseError (x : Request) (message : String) : Request :=
  match x.pending with
  | none => x
  | some p =>
    { pending := none
      timer := x.timer.clear
      res := if p.headersSent then x.res.end_
        else x.res.tryJson 502 "TUNNEL_ERROR" s!"Forwarded host error: {message}" }

def abortRequest (x : Request) : Request :=
  match x.pending with
  | none => x
  | some _ => { x with pending := none, timer := x.timer.clear }

/-- The timer has fired. -/
def handleTimeout (x : Request) : Request :=
  let x := { x with timer := .fired }
  match x.pending with
  | none => x
  | some p =>
    { x with
      pending := none
      res := if p.headersSent then x.res.end_
        else x.res.tryJson 504 "GATEWAY_TIMEOUT" "The forwarded localhost server timed out responding." }

/-- The `close` event of the response: a response that has ended is left as it is. -/
def onClose (x : Request) : Request :=
  if x.res.phase = .ended then x else abortRequest { x with res := { x.res with closed := true } }

def receive (x : Request) : Frame → Request
  | .headers statusCode headers => x.handleResponseHeaders statusCode headers
  | .chunk bytes => x.handleResponseChunk bytes
  | .end_ => x.handleResponseEnd
  | .error message => x.handleResponseError message

inductive Event
  | frame (frame : Frame)
  | timeout
  | close

/-- A timer fires only while it is armed. -/
def step (x : Request) : Event → Option Request
  | .frame frame => some (x.receive frame)
  | .timeout => if x.timer = .armed then some x.handleTimeout else none
  | .close => some x.onClose

/-! ## Ended exactly once -/

/-- What is to hold of a request whose entry is gone. -/
structure Answered (x : Request) : Prop where
  ended : x.res.closed = true ∨ x.res.ends = 1
  late : x.res.late = false
  timer : x.timer ≠ .armed
  deaf : ∀ frame, x.receive frame = x

/-- An error message or the timeout does not come while bytes of the body are out and no headers message was taken. -/
def inOrder (x : Request) : Event → Bool
  | .frame (.error _) | .timeout => x.pending.all fun p => p.headersSent || x.res.phase == .open_
  | _ => true

/-- A request while its entry is there, and afterwards. -/
structure Inv (x : Request) : Prop where
  waiting : x.pending.isSome = true →
    x.timer = .armed ∧ x.res.phase ≠ .ended ∧ x.res.ends = 0 ∧ x.res.closed = false
  gone : x.pending = none → x.timer ≠ .armed
  late : x.res.late = false

theorem receive_gone {x : Request} (h : x.pending = none) (frame : Frame) : x.receive frame = x := by
  cases frame with
  | headers statusCode headers => simp only [receive, handleResponseHeaders, h]
  | chunk bytes => simp only [receive, handleResponseChunk, h]
  | end_ => simp only [receive, handleResponseEnd, h]
  | error message => simp only [receive, handleResponseError, h]

theorem Inv.answered {x : Request} (h : Inv x) (hgone : x.pending = none) :
    Answered x ↔ x.res.closed = true ∨ x.res.ends = 1 :=
  ⟨fun ha => ha.ended, fun hended => ⟨hended, h.late, h.gone hgone, receive_gone hgone⟩⟩

/-! ## What is written -/

theorem setHeader_same {res res' : Response} {name : String} {values : List String}
    (h : res.setHeader name values = some res') : res'.phase = res.phase ∧ res'.ends = res.ends ∧
      res'.late = res.late ∧ res'.closed = res.closed := by
  unfold Response.setHeader at h
  split at h
  · cases h
    exact ⟨rfl, rfl, rfl, rfl⟩
  · cases h

theorem setHeaders_same : ∀ (headers : List (String × List String)) (res : Response),
    (res.setHeaders headers).phase = res.phase ∧ (res.setHeaders headers).ends = res.ends ∧
      (res.setHeaders headers).late = res.late ∧ (res.setHeaders headers).closed = res.closed
  | [], res => ⟨rfl, rfl, rfl, rfl⟩
  | (name, values) :: rest, res => by
    rw [Response.setHeaders]
    cases hset : res.setHeader name values with
    | none => exact ⟨rfl, rfl, rfl, rfl⟩
    | some res' =>
      obtain ⟨hphase, hends, hlate, hclosed⟩ := setHeader_same hset
      obtain ⟨hphase', hends', hlate', hclosed'⟩ := setHeaders_same rest res'
      exact ⟨hphase'.trans hphase, hends'.trans hends, hlate'.trans hlate, hclosed'.trans hclosed⟩

theorem status_same {res res' : Response} {statusCode : Number} (h : res.status statusCode = some res') :
    res'.phase = res.phase ∧ res'.ends = res.ends ∧ res'.late = res.late ∧ res'.closed = res.closed := by
  unfold Response.status at h
  split at h
  · split at h
    · cases h
      split <;> exact ⟨rfl, rfl, rfl, rfl⟩
    · cases h
  · cases h

/-- `status(...).json(...)` ends a response whose head is not out, and leaves any other open. -/
theorem tryJson_spec (res : Response) (statusCode : Int) (error message : String) :
    (res.tryJson statusCode error message).late = res.late ∧
    (res.tryJson statusCode error message).closed = res.closed ∧
    (res.tryJson statusCode error message).ends = if res.phase = .open_ then res.ends + 1 else res.ends := by
  have hstatus : ∀ r : Response, r = (res.status (.ofInt statusCode)).getD res →
      r.phase = res.phase ∧ r.ends = res.ends ∧ r.late = res.late ∧ r.closed = res.closed := by
    rintro r rfl
    cases hs : res.status (.ofInt statusCode) with
    | none => exact ⟨rfl, rfl, rfl, rfl⟩
    | some r => exact status_same hs
  unfold Response.tryJson
  obtain ⟨hphase, hends, hlate, hclosed⟩ := hstatus _ rfl
  generalize (res.status (.ofInt statusCode)).getD res = r at hphase hends hlate hclosed ⊢
  unfold Response.json
  simp only [hphase]
  by_cases hopen : res.phase = .open_
  · rw [if_pos hopen, if_pos hopen]
    exact ⟨hlate, hclosed, congrArg (· + 1) hends⟩
  · rw [if_neg hopen, if_neg hopen]
    exact ⟨hlate, hclosed, hends⟩

/-- How an error message and the timeout end a response. -/
def giveUp (res : Response) (p : Pending) (statusCode : Int) (error message : String) : Response :=
  if p.headersSent then res.end_ else res.tryJson statusCode error message

theorem giveUp_spec (res : Response) (p : Pending) (statusCode : Int) (error message : String) :
    (giveUp res p statusCode error message).late = res.late ∧
    (giveUp res p statusCode error message).closed = res.closed ∧
    (giveUp res p statusCode error message).ends =
      if p.headersSent = true ∨ res.phase = .open_ then res.ends + 1 else res.ends := by
  unfold giveUp
  by_cases hsent : p.headersSent = true
  · rw [if_pos hsent, if_pos (.inl hsent)]
    exact ⟨rfl, rfl, rfl⟩
  · rw [if_neg hsent]
    obtain ⟨hlate, hclosed, hends⟩ := tryJson_spec res statusCode error message
    refine ⟨hlate, hclosed, hends.trans ?_⟩
    by_cases hopen : res.phase = .open_
    · rw [if_pos hopen, if_pos (.inr hopen)]
    · rw [if_neg hopen, if_neg (by rintro (h | h); exacts [hsent h, hopen h])]

theorem clear_ne (t : Timer) : t.clear ≠ .armed := by
  cases t with
  | armed => exact Timer.noConfusion
  | cleared => exact Timer.noConfusion
  | fired => exact Timer.noConfusion

/-! ## Every step -/

/-- What a step makes of a request whose entry is there: the entry stays, or it goes and the response is ended, closed
or given up. -/
theorem step_waiting {x x' : Request} {e : Event} {p : Pending} (hx : Inv x) (hp : x.pending = some p)
    (h : step x e = some x') :
    (x'.pending.isSome = true ∧ Inv x' ∧ inOrder x e = true) ∨
    (x'.pending = none ∧ Inv x' ∧ (x'.res.closed = true ∨ x'.res.ends = 1) ∧ inOrder x e = true) ∨
    (x'.pending = none ∧ Inv x' ∧ x'.res.closed = false ∧
      (x'.res.ends = if p.headersSent = true ∨ x.res.phase = .open_ then 1 else 0) ∧
      (inOrder x e = true ↔ p.headersSent = true ∨ x.res.phase = .open_)) := by
  obtain ⟨harmed, hphase, hends, hclosed⟩ := hx.waiting (by rw [hp]; rfl)
  have hgiven : ∀ (t : Timer) (res : Response), t ≠ .armed → res.late = x.res.late → Inv ⟨none, t, res⟩ :=
    fun t res ht hlate => ⟨fun h => absurd h Bool.false_ne_true, fun _ => ht, hlate.trans hx.late⟩
  have horder : x.pending.all (fun p => p.headersSent || x.res.phase == .open_) = true ↔
      p.headersSent = true ∨ x.res.phase = .open_ := by
    rw [hp, Option.all_some, Bool.or_eq_true, beq_iff_eq]
  cases e with
  | timeout =>
    rw [step, if_pos harmed] at h
    cases h
    have hgiveUp : x.handleTimeout = ⟨none, .fired, giveUp x.res p 504 "GATEWAY_TIMEOUT"
        "The forwarded localhost server timed out responding."⟩ := by
      simp only [handleTimeout, hp]
      rfl
    rw [hgiveUp]
    obtain ⟨hlate', hclosed', hends'⟩ := giveUp_spec x.res p 504 "GATEWAY_TIMEOUT"
      "The forwarded localhost server timed out responding."
    rw [hends] at hends'
    exact .inr (.inr ⟨rfl, hgiven .fired _ Timer.noConfusion hlate', hclosed'.trans hclosed, hends', horder⟩)
  | close =>
    cases h
    have hgone : x.onClose = ⟨none, x.timer.clear, { x.res with closed := true }⟩ := by
      simp only [onClose, if_neg hphase, abortRequest, hp]
    rw [hgone]
    exact .inr (.inl ⟨rfl, hgiven _ _ (clear_ne _) rfl, .inl rfl, rfl⟩)
  | frame frame =>
    cases h
    cases frame with
    | error message =>
      have hgiveUp : x.receive (.error message) = ⟨none, x.timer.clear, giveUp x.res p 502 "TUNNEL_ERROR"
          s!"Forwarded host error: {message}"⟩ := by
        simp only [receive, handleResponseError, hp]
        rfl
      rw [hgiveUp]
      obtain ⟨hlate', hclosed', hends'⟩ := giveUp_spec x.res p 502 "TUNNEL_ERROR"
        s!"Forwarded host error: {message}"
      rw [hends] at hends'
      exact .inr (.inr ⟨rfl, hgiven _ _ (clear_ne _) hlate', hclosed'.trans hclosed, hends', horder⟩)
    | end_ =>
      have hended : x.receive .end_ = ⟨none, x.timer.clear, x.res.end_⟩ := by
        simp only [receive, handleResponseEnd, hp]
      rw [hended]
      exact .inr (.inl ⟨rfl, hgiven _ _ (clear_ne _) rfl, .inr (congrArg (· + 1) hends), rfl⟩)
    | chunk bytes =>
      left
      cases bytes with
      | none =>
        have hsame : x.receive (.chunk none) = x := by simp only [receive, handleResponseChunk, hp]
        rw [hsame]
        exact ⟨by rw [hp]; rfl, hx, rfl⟩
      | some bytes =>
        have hwrite : x.receive (.chunk (some bytes)) = ⟨some p, x.timer,
            { x.res with phase := .headersSent, body := x.res.body ++ [.bytes bytes] }⟩ := by
          simp only [receive, handleResponseChunk, hp, Response.write, if_neg hphase]
        rw [hwrite]
        exact ⟨rfl, ⟨fun _ => ⟨harmed, Phase.noConfusion, hends, hclosed⟩, (fun h => by cases h), hx.late⟩, rfl⟩
    | headers statusCode headers =>
      left
      have hheaders : x.receive (.headers statusCode headers) = if p.headersSent then x else
          match headers, x.res.status statusCode with
          | some headers, some res => ⟨some ⟨true⟩, x.timer, res.setHeaders (sanitize headers)⟩
          | _, _ => ⟨some ⟨true⟩, x.timer, x.res⟩ := by
        simp only [receive, handleResponseHeaders, hp]
      rw [hheaders]
      split
      · exact ⟨by rw [hp]; rfl, hx, rfl⟩
      · have hnoted : Inv ⟨some ⟨true⟩, x.timer, x.res⟩ :=
          ⟨fun _ => ⟨harmed, hphase, hends, hclosed⟩, (fun h => by cases h), hx.late⟩
        split
        · rename_i headers res hstatus
          obtain ⟨hphase₁, hends₁, hlate₁, hclosed₁⟩ := status_same hstatus
          obtain ⟨hphase₂, hends₂, hlate₂, hclosed₂⟩ := setHeaders_same (sanitize headers) res
          refine ⟨rfl, ⟨fun _ => ⟨harmed, ?_, ?_, ?_⟩, (fun h => by cases h), ?_⟩, rfl⟩
          · exact fun h => hphase (hphase₁ ▸ hphase₂ ▸ h)
          · exact hends₂.trans (hends₁.trans hends)
          · exact hclosed₂.trans (hclosed₁.trans hclosed)
          · exact hlate₂.trans (hlate₁.trans hx.late)
        · exact ⟨rfl, hnoted, rfl⟩

/-- A request whose entry is gone changes only by the viewer's going away before the end. -/
theorem step_gone {x x' : Request} {e : Event} (hx : Inv x) (hp : x.pending = none) (h : step x e = some x') :
    x'.pending = none ∧ Inv x' ∧ (x' = x ∨ x'.res.closed = true) ∧ inOrder x e = true := by
  have horder : inOrder x e = true := by
    cases e with
    | frame frame =>
      cases frame with
      | error message => simp only [inOrder, hp, Option.all_none]
      | _ => rfl
    | timeout => simp only [inOrder, hp, Option.all_none]
    | close => rfl
  cases e with
  | frame frame =>
    cases h
    rw [receive_gone hp]
    exact ⟨hp, hx, .inl rfl, horder⟩
  | timeout =>
    rw [step, if_neg (hx.gone hp)] at h
    cases h
  | close =>
    cases h
    by_cases hended : x.res.phase = .ended
    · have hsame : x.onClose = x := if_pos hended
      rw [hsame]
      exact ⟨hp, hx, .inl rfl, horder⟩
    · have hclosed : x.onClose = { x with res := { x.res with closed := true } } := by
        simp only [onClose, if_neg hended, abortRequest, hp]
      rw [hclosed]
      exact ⟨hp, ⟨fun h => absurd h (by rw [hp]; exact Bool.false_ne_true), fun _ => hx.gone hp, hx.late⟩, .inr rfl,
        horder⟩

theorem step_inv {x x' : Request} {e : Event} (hx : Inv x) (h : step x e = some x') : Inv x' := by
  cases hp : x.pending with
  | none => exact (step_gone hx hp h).2.1
  | some p =>
    rcases step_waiting hx hp h with ⟨-, hinv, -⟩ | ⟨-, hinv, -⟩ | ⟨-, hinv, -⟩
    · exact hinv
    · exact hinv
    · exact hinv

theorem step_answered {x x' : Request} {e : Event} (hx : Inv x) (hanswered : x.pending = none → Answered x)
    (h : step x e = some x') : (x'.pending = none → Answered x') ↔ inOrder x e = true := by
  cases hp : x.pending with
  | none =>
    obtain ⟨hp', hinv, hsame, horder⟩ := step_gone hx hp h
    refine ⟨fun _ => horder, fun _ _ => ?_⟩
    rcases hsame with rfl | hclosed
    · exact hanswered hp
    · exact (hinv.answered hp').2 (.inl hclosed)
  | some p =>
    rcases step_waiting hx hp h with ⟨hp', -, horder⟩ | ⟨hp', hinv, hended, horder⟩ |
      ⟨hp', hinv, hclosed, hends, horder⟩
    · refine ⟨fun _ => horder, fun _ hnone => ?_⟩
      rw [hnone] at hp'
      cases hp'
    · exact ⟨fun _ => horder, fun _ _ => (hinv.answered hp').2 hended⟩
    · rw [horder]
      by_cases hgood : p.headersSent = true ∨ x.res.phase = .open_
      · rw [if_pos hgood] at hends
        exact ⟨fun _ => hgood, fun _ _ => (hinv.answered hp').2 (.inr hends)⟩
      · rw [if_neg hgood] at hends
        refine ⟨fun hall => ?_, fun h => absurd h hgood⟩
        rcases (hall hp').ended with hclosed' | hends'
        · rw [hclosed] at hclosed'
          cases hclosed'
        · rw [hends] at hends'
          cases hends'

theorem registered_inv : Inv registered :=
  ⟨fun _ => ⟨rfl, Phase.noConfusion, rfl, rfl⟩, (fun h => by cases h), rfl⟩

/-- In every run of one request: whenever its entry is gone the response has been ended exactly once unless the viewer
went away, nothing was written after the end, the timer is cleared or has fired and no message changes anything any
more, if and only if neither an error message nor the timeout came between bytes of the body and a headers message. -/
theorem ended_once {es : List Event} {x : Request} (h : run step registered es = some x) :
    Meets step (fun y e => inOrder y e = true) registered es ↔
      ∀ es₁ es₂ y, es = es₁ ++ es₂ → run step registered es₁ = some y → y.pending = none → Answered y :=
  meets_iff (P := fun y => y.pending = none → Answered y) (fun _ _ _ => step_inv)
    (fun _ _ _ hx hanswered hstep => step_answered hx hanswered hstep) registered_inv (fun h => by cases h) h

/-! ### A chunk before the headers -/

namespace Example

/-- The host answers, and repeats itself. -/
def answers : List Event :=
  [.frame (.headers (.ofInt 200) (some [("content-type", ["text/plain"])])), .frame (.chunk (some [104, 105])),
    .frame .end_, .frame (.error "again"), .close]

/-- The host sends a chunk, and then gives up. -/
def givesUp : List Event := [.frame (.chunk (some [104, 105])), .frame (.error "connection refused")]

end Example

open Example in
theorem answers_once : ∃ x, run step registered answers = some x ∧
    (∀ es₁ es₂ y, answers = es₁ ++ es₂ → run step registered es₁ = some y → y.pending = none → Answered y) ∧
    x.pending = none ∧ x.res.ends = 1 := by
  have hrun : (run step registered answers).map (fun x => (x.pending, x.res.ends)) = some (none, 1) := by
    decide +kernel
  obtain ⟨x, hx, hout⟩ := Option.map_eq_some_iff.1 hrun
  rw [Prod.mk.injEq] at hout
  exact ⟨x, hx, (ended_once hx).1 (by decide +kernel), hout⟩

open Example in
theorem left_open :
    (run step registered givesUp).map (fun x => (x.pending, x.timer, x.res.phase, x.res.ends, x.res.closed)) =
      some (none, .cleared, .headersSent, 0, false) := by
  decide

end Request

end Livetich.Tunnel
