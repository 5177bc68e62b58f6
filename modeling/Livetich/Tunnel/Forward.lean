/-
A proxied request on its way to the host (`forward` of the proxy): who is admitted, and the frame that is sent.
The token may stand in the query, in the Authorization header or in a cookie, and only the query is cleaned of it.
What the response is given before the frame is sent, its headers and its cookie, is left out.
-/
import Livetich.Js.Json
import Livetich.Lib.Checked
import Livetich.Model
import Livetich.Tunnel.Cookies
import Livetich.Tunnel.Preview

namespace Livetich.Tunnel.Forward

open Livetich.Lib Livetich.Js
open Cookies (cookies parseCookie tokenName)
open Preview (Lower Env previewDomain)

/-! ## Requests and frames -/

inductive HeaderValue
  | one (value : List Char)
  | many (values : List (List Char))
  deriving DecidableEq

inductive Body
  | buffer (bytes : List UInt8)
  | object (value : Json)
  | text (value : String)

structure Request where
  method : String
  /-- `req.hostname`. -/
  hostname : Option (List Char)
  ip : Option String
  protocol : String
  query : String → Option Json
  headers : String → Option HeaderValue
  body : Option Body

/-- A header that is never repeated. -/
def Request.header (req : Request) (name : String) : Option (List Char) :=
  match req.headers name with
  | some (.one value) => some value
  | _ => none

structure Frame where
  reqId : String
  port : Nat
  method : String
  path : String
  query : String → Option Json
  headers : String → Option HeaderValue
  body : Option String
  isBase64 : Bool

/-- A frame apart from the random id of its request. -/
def Frame.content (f : Frame) : Frame := { f with reqId := "" }

/-- How the language writes bytes and objects. -/
structure Encoding where
  base64 : List UInt8 → String
  stringify : Json → String

structure Account where
  disabled : Bool
  emailVerified : Bool

/-- What is read on the way: `verify` of the token library, the accounts, the rows and the forwarded ports. -/
structure Site where
  verify : String → Option JwtPayload
  getState : UserId → Option Account
  liveSession : SessionId → Option LiveSession
  enrolled : CourseId → UserId → Bool
  getHostSocketForPort : SessionId → Nat → Option SocketId

inductive Refusal
  /-- An error that no handler expects. -/
  | thrown
  | sent (status : Nat) (message : String)
  /-- The page that tells that the port is not online. -/
  | offline (port : Nat)
  deriving DecidableEq

/-! ## Admission -/

/-- `parseInt(portStr, 10)`, if it is a port. -/
def parsePort (portStr : List Char) : Option Nat :=
  let cs := portStr.dropWhile isSpace
  -- after a minus sign there is no number that is a port
  let digits := (if cs.head? = some '+' then cs.drop 1 else cs).takeWhile isDigit
  if digits = [] then none
  else (some (Nat.ofDigitChars 10 digits 0)).filter fun port => 1 ≤ port ∧ port ≤ 65535

/-- The token, from the first place that has one. -/
def Request.token (req : Request) (jar : Table (List Char) (List Char)) : Option Json :=
  (req.query "token").or
    (((req.header "authorization").bind fun value => (value.splitOn ' ')[1]?).or (jar.get tokenName) |>.map
      fun cs => .str (String.ofList cs))

/-- No token: of what a query can hold only the empty text. -/
def isEmpty : Json → Bool
  | .str token => token = ""
  | _ => false

def verified (site : Site) : Json → Option JwtPayload
  | .str token => site.verify token
  | _ => none

/-- Whoever may not see the session is told why. -/
def checkSession (site : Site) (user : JwtPayload) (session : LiveSession) : Except Refusal Unit :=
  match user.role with
  | .instructor => ensure (session.course.instructorId = some user.sub) (.sent 403 "Not your session")
  | .orgAdmin => ensure (user.organizationId.any (· ≠ "") = true ∧ session.course.organizationId = user.organizationId)
      (.sent 403 "Not your organisation session")
  | .student => ensure (site.enrolled session.course.id user.sub = true) (.sent 403 "Not enrolled in course")

def authorize (site : Site) (sessionId : SessionId) (port : Nat) (req : Request) : Except Refusal JwtPayload := do
  let jar ← match parseCookie (req.header "cookie") with
    | .ok jar => .ok jar
    | .error _ => .error .thrown
  let token ← orThrow ((req.token jar).filter fun token => !isEmpty token)
    (.sent 401 "Missing session authorization token")
  let user ← orThrow (verified site token) (.sent 401 "Invalid or expired authorization token")
  ensure (∀ preview ∈ user.preview, preview.sessionId = sessionId ∧ preview.port = port)
    (.sent 403 "Preview token is not valid for this session or port")
  ensure (user.recorder = none) (.sent 401 "Recorder tokens cannot access forwarded ports")
  let account ← orThrow ((site.getState user.sub).filter fun account => !account.disabled)
    (.sent 401 "This account is not permitted")
  ensure (account.emailVerified = true) (.sent 403 "Email not verified")
  let _ ← orThrow req.hostname .thrown
  let session ← orThrow ((site.liveSession sessionId).filter fun session => session.status ≠ .ended)
    (.sent 404 "Session not found or ended")
  checkSession site user session
  return user

/-! ## The frame -/

/-- The preview has an origin of its own. -/
def isHostPreview (l : Lower) (env : Env) (hostname : List Char) : Bool :=
  ".localhost".toList.isSuffixOf (l.lower hostname) ||
    (previewDomain l env).any fun domain => ('.' :: domain).isSuffixOf (l.lower hostname)

def bodyBase64 (enc : Encoding) : Option Body → Option String
  | none => none
  | some (.buffer bytes) => some (enc.base64 bytes)
  | some (.object value) => some (enc.base64 (enc.stringify value).toUTF8.toList)
  | some (.text value) => if value = "" then none else some (enc.base64 value.toUTF8.toList)

def text (s : String) : Option HeaderValue := some (.one s.toList)

/-- All headers of the request, and four that are written over them. -/
def forwardedHeaders (req : Request) (sessionId : SessionId) (port : Nat) (hostPreview : Bool) :
    String → Option HeaderValue :=
  let headers := Function.update req.headers "x-forwarded-for" (text (req.ip.getD "127.0.0.1"))
  let headers := Function.update headers "x-forwarded-proto" (text req.protocol)
  let headers := if hostPreview then headers
    else Function.update headers "x-forwarded-prefix" (text ("/proxy/" ++ sessionId ++ "/" ++ toString port))
  Function.update headers "host" (text ("localhost:" ++ toString port))

def frameOf (enc : Encoding) (req : Request) (sessionId : SessionId) (port : Nat) (subpath : String)
    (hostPreview : Bool) (reqId : String) : Frame where
  reqId := reqId
  port := port
  method := req.method
  path := subpath
  -- do not leak token downstream to local server
  query := Function.update req.query "token" none
  headers := forwardedHeaders req sessionId port hostPreview
  body := bodyBase64 enc req.body
  isBase64 := (bodyBase64 enc req.body).any (· ≠ "")

/-- The socket of the host, and the frame it is sent. -/
def forward (l : Lower) (env : Env) (enc : Encoding) (site : Site) (sessionId : SessionId) (portStr : List Char)
    (subpath : String) (req : Request) (reqId : String) : Except Refusal (SocketId × Frame) := do
  let port ← orThrow (parsePort portStr) (.sent 400 "Invalid port number")
  let _ ← authorize site sessionId port req
  let hostSocketId ← orThrow (site.getHostSocketForPort sessionId port) (.offline port)
  let hostPreview := isHostPreview l env (req.hostname.getD [])
  return (hostSocketId, frameOf enc req sessionId port subpath hostPreview reqId)

theorem forward_ok {l : Lower} {env : Env} {enc : Encoding} {site : Site} {sessionId : SessionId} {portStr : List Char}
    {subpath : String} {req : Request} {reqId : String} {sent : SocketId × Frame}
    (h : forward l env enc site sessionId portStr subpath req reqId = .ok sent) :
    ∃ port, parsePort portStr = some port ∧ (∃ user, authorize site sessionId port req = .ok user) ∧
      sent.2 = frameOf enc req sessionId port subpath (isHostPreview l env (req.hostname.getD [])) reqId := by
  obtain ⟨port, hport, h⟩ := bind_ok_iff.1 h
  obtain ⟨user, huser, h⟩ := bind_ok_iff.1 h
  obtain ⟨host, -, h⟩ := bind_ok_iff.1 h
  cases h
  exact ⟨port, orThrow_ok_iff.1 hport, ⟨user, huser⟩, rfl⟩

/-! ## Two requests that differ in the token -/

/-- The cookies other than the token, as they stand in the header. -/
def otherCookies (req : Request) : List Cookies.Cookie :=
  (cookies (req.header "cookie")).filter fun c => c.1 ≠ tokenName

/-- The same but for the token, in whichever of the three places it is given. -/
structure SameButToken (req req' : Request) : Prop where
  method : req'.method = req.method
  hostname : req'.hostname = req.hostname
  ip : req'.ip = req.ip
  protocol : req'.protocol = req.protocol
  query : ∀ key, key ≠ "token" → req'.query key = req.query key
  headers : ∀ name, name ≠ "authorization" → name ≠ "cookie" → req'.headers name = req.headers name
  cookies : otherCookies req' = otherCookies req
  body : req'.body = req.body

theorem forwardedHeaders_kept (req : Request) (sessionId : SessionId) (port : Nat) (hostPreview : Bool) {name : String}
    (h : name = "authorization" ∨ name = "cookie") :
    forwardedHeaders req sessionId port hostPreview name = req.headers name := by
  unfold forwardedHeaders
  rcases h with rfl | rfl <;> cases hostPreview <;> simp

/-- The query of a frame does not depend on the token. -/
theorem SameButToken.query_eq {req req' : Request} (h : SameButToken req req') :
    Function.update req'.query "token" none = Function.update req.query "token" none := by
  funext key
  by_cases hkey : key = "token"
  · subst hkey
    rw [Function.update_self, Function.update_self]
  · rw [Function.update_of_ne hkey, Function.update_of_ne hkey, h.query key hkey]

/-- The frames of two such requests, whoever is admitted with them, are the same if and only if the requests have the
same Authorization header and the same cookies: where the token stands in the query alone. -/
theorem frames_same_iff {l : Lower} {env : Env} {enc : Encoding} {site site' : Site} {sessionId : SessionId}
    {portStr : List Char} {subpath : String} {req req' : Request} {reqId reqId' : String}
    {sent sent' : SocketId × Frame}
    (hsame : SameButToken req req') (h : forward l env enc site sessionId portStr subpath req reqId = .ok sent)
    (h' : forward l env enc site' sessionId portStr subpath req' reqId' = .ok sent') :
    sent'.2.content = sent.2.content ↔
      req'.headers "authorization" = req.headers "authorization" ∧ req'.headers "cookie" = req.headers "cookie" := by
  obtain ⟨port, hport, -, hframe⟩ := forward_ok h
  obtain ⟨port', hport', -, hframe'⟩ := forward_ok h'
  obtain rfl : port = port' := Option.some.inj (hport.symm.trans hport')
  rw [hframe, hframe', hsame.hostname]
  show frameOf enc req' sessionId port subpath _ "" = frameOf enc req sessionId port subpath _ "" ↔ _
  constructor
  · intro heq
    have hheaders : forwardedHeaders req' sessionId port (isHostPreview l env (req.hostname.getD [])) =
        forwardedHeaders req sessionId port (isHostPreview l env (req.hostname.getD [])) := congrArg Frame.headers heq
    constructor
    · have hname := congrFun hheaders "authorization"
      rwa [forwardedHeaders_kept _ _ _ _ (.inl rfl), forwardedHeaders_kept _ _ _ _ (.inl rfl)] at hname
    · have hname := congrFun hheaders "cookie"
      rwa [forwardedHeaders_kept _ _ _ _ (.inr rfl), forwardedHeaders_kept _ _ _ _ (.inr rfl)] at hname
  · rintro ⟨hauthorization, hcookie⟩
    have hheaders : req'.headers = req.headers := by
      funext name
      by_cases ha : name = "authorization"
      · rw [ha, hauthorization]
      · by_cases hc : name = "cookie"
        · rw [hc, hcookie]
        · exact hsame.headers name ha hc
    unfold frameOf forwardedHeaders
    rw [hsame.query_eq, hheaders, hsame.ip, hsame.protocol, hsame.method, hsame.body]

namespace Example

def lower : Lower := Preview.Example.lower

def env : Env := ⟨none, none, none, true⟩

def enc : Encoding := ⟨fun _ => "", fun _ => ""⟩

def amina : JwtPayload := ⟨"amina", .student, "Amina", some "acme", none, none⟩

/-- Two tokens of Amina's, who is enrolled in the course of Monday's session. -/
def site : Site where
  verify token := if token = "t1" ∨ token = "t2" then some amina else none
  getState _ := some ⟨false, true⟩
  liveSession id := some ⟨id, .live, ⟨"web-1", some "zayd", some "acme", none⟩⟩
  enrolled courseId userId := courseId = "web-1" && userId = "amina"
  getHostSocketForPort _ port := if port = 3000 then some "host" else none

def get (query : Option String) (authorization : Option String) : Request where
  method := "GET"
  hostname := some "api".toList
  ip := some "10.0.0.1"
  protocol := "https"
  query key := if key = "token" then query.map .str else if key = "page" then some (.str "2") else none
  headers name :=
    if name = "authorization" then authorization.bind text else if name = "accept" then text "*/*" else none
  body := none

end Example

theorem Example.sameButToken (query query' authorization authorization' : Option String) :
    SameButToken (Example.get query authorization) (Example.get query' authorization') := by
  refine ⟨rfl, rfl, rfl, rfl, fun key hkey => ?_, fun name hname _ => ?_, rfl, rfl⟩
  · unfold Example.get
    simp [hkey]
  · unfold Example.get
    simp [hname]

open Example in
theorem query_frames_same : ∃ f f' : Frame,
    forward lower env enc site "monday" "3000".toList "/" (get (some "t1") none) "r1" = .ok ("host", f) ∧
      forward lower env enc site "monday" "3000".toList "/" (get (some "t2") none) "r2" = .ok ("host", f') ∧
      f'.content = f.content := by
  obtain ⟨f, h⟩ : ∃ f, forward lower env enc site "monday" "3000".toList "/" (get (some "t1") none) "r1" =
      .ok ("host", f) := ⟨_, rfl⟩
  obtain ⟨f', h'⟩ : ∃ f', forward lower env enc site "monday" "3000".toList "/" (get (some "t2") none) "r2" =
      .ok ("host", f') := ⟨_, rfl⟩
  exact ⟨f, f', h, h', (frames_same_iff (Example.sameButToken _ _ _ _) h h').2 ⟨rfl, rfl⟩⟩

open Example in
theorem authorization_reaches_host : ∃ f f' : Frame,
    SameButToken (get none (some "Bearer t1")) (get none (some "Bearer t2")) ∧
      authorize site "monday" 3000 (get none (some "Bearer t1")) = .ok amina ∧
      authorize site "monday" 3000 (get none (some "Bearer t2")) = .ok amina ∧
      forward lower env enc site "monday" "3000".toList "/" (get none (some "Bearer t1")) "r1" = .ok ("host", f) ∧
      forward lower env enc site "monday" "3000".toList "/" (get none (some "Bearer t2")) "r2" = .ok ("host", f') ∧
      f.headers "authorization" = text "Bearer t1" ∧ f'.headers "authorization" = text "Bearer t2" ∧
      f'.content ≠ f.content := by
  refine ⟨_, _, Example.sameButToken _ _ _ _, rfl, rfl, rfl, rfl, rfl, rfl, fun h => ?_⟩
  have hname : text "Bearer t2" = text "Bearer t1" := congrFun (congrArg Frame.headers h) "authorization"
  revert hname
  decide

end Livetich.Tunnel.Forward
