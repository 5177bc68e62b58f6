/-
The images of the boards: `BoardAssetController.upload` and `serve` as steps between their calls of Redis and of the
object store, beside the saved boards, which may name any image. Ids of sessions are in the order of the database.

A call that is refused, or that throws with nothing to undo, ends there. What `serve` reads after the binding of an
image changes nothing and is left out, as is `googleImport`, which stores nothing.
-/
import Livetich.Js.Units
import Livetich.Js.Uri
import Livetich.Lib.Checked
import Livetich.Lib.Table
import Livetich.Lib.TransSys
import Livetich.Model

namespace Livetich.Board.Assets

open TransSys Livetich.Lib
open Livetich.Js (textUnits)

abbrev AssetId := String
abbrev Buffer := List UInt8

/-! ## Data -/

/-- `MAX_ASSET_BYTES`. -/
def maxAssetBytes : Nat := 20 * 1024 * 1024

/-- `MAX_SESSION_ASSETS`. -/
def maxSessionAssets : Nat := 120

/-- `MAX_SESSION_ASSET_BYTES`. -/
def maxSessionAssetBytes : Nat := 150 * 1024 * 1024

def assetKey (id : AssetId) : String := "board-asset/" ++ id

def typeKey (id : AssetId) : String := "board-asset/" ++ id ++ ".ct"

def sessionKey (id : AssetId) : String := "board-asset/" ++ id ++ ".session"

def boardKey (sessionName : String) : String := "boards/" ++ sessionName ++ ".bin"

/-- The objects of an asset. -/
def keys (id : AssetId) : List String := [assetKey id, typeKey id, sessionKey id]

inductive HttpError
  | badRequest (message : String)
  | notFound (message : String)
  | forbidden (message : String)
  | tooManyRequests (message : String)
  deriving DecidableEq

structure UploadedBlob where
  buffer : Buffer
  mimetype : String
  size : Nat
  deriving DecidableEq

/-- The columns of a session that are read here. -/
structure BoardSession where
  status : SessionStatus
  endedAt : Option Int
  course : CourseRef
  deriving DecidableEq

/-- What the service stands on. -/
structure Host (Session : Type) where
  name : Session → String
  name_inj : Function.Injective name
  /-- The object that a key names; a file system takes `..` out. -/
  place : String → String
  toLowerCase : String → String
  /-- The `url` of each value of the board's map of files, `none` for a value without one; `none` altogether where Yjs
  cannot read the update. -/
  applyUpdate : Buffer → Option (List (Option String))
  /-- `pathname` of a URL, `none` where it does not parse. -/
  pathname : String → Option String

structure Store (Session : Type) where
  sessions : Table Session BoardSession
  enrolled : List (CourseId × UserId)
  /-- `BoardGateway.isWritable`. -/
  writable : Session → Bool
  objects : String → Option Buffer
  /-- `board:assets:<session>`. -/
  index : Session → List AssetId
  /-- `board:asset-count:<session>`. -/
  count : Session → Int
  /-- `board:asset-bytes:<session>`. -/
  bytes : Session → Int
  /-- `board:asset-cleanup:retry-sessions`. -/
  retry : Table Session Unit
  /-- `board:asset-cleanup:last-session-id`. -/
  cursor : Option Session
  /-- The calls of `removeSessionAssets` that have returned, the last one first, and what each of them returned; nothing
  reads it. -/
  removals : List (Session × Bool)

/-- An upload that has passed its checks. -/
structure Upload (Session : Type) where
  session : Session
  size : Nat
  buffer : Buffer
  contentType : String
  deriving DecidableEq

/-- What the `catch` of `upload` takes back. -/
inductive Undo
  | asset
  | type
  | session
  | index
  | count
  | bytes
  deriving DecidableEq

/-- What a call does next. -/
inductive Stage (Session : Type)
  | reserve (u : Upload Session)
  | sadd (u : Upload Session) (id : AssetId)
  | putAsset (u : Upload Session) (id : AssetId)
  | putType (u : Upload Session) (id : AssetId)
  | putSession (u : Upload Session) (id : AssetId)
  | undo (u : Upload Session) (id : AssetId) (left : List Undo)
  /-- `serve` asks for the size of the image. -/
  | size (session : Session) (id : AssetId)
  | owner (session : Session) (id : AssetId)
  /-- `serve` puts an image without an owner into the index, and then binds it. -/
  | claim (session : Session) (id : AssetId)
  | bind (session : Session) (id : AssetId)
  deriving DecidableEq

structure State (Session : Type) extends Store Session where
  tasks : Pool (Stage Session)
  /-- The ids that `randomUUID` has drawn. -/
  drawn : List AssetId
  /-- The uploads that have returned the address of their image. -/
  stored : List (AssetId × Upload Session)

inductive Event (Session : Type)
  | upload (i : Nat) (user : JwtPayload) (session : Session) (file : Option UploadedBlob)
  | serve (i : Nat) (user : JwtPayload) (session : Session) (id : AssetId)
  /-- The call that task `i` waits for returns; `id` is what `randomUUID` would draw. -/
  | resume (i : Nat) (id : AssetId)
  /-- It fails; a write may have been made all the same. -/
  | fail (i : Nat) (made : Bool)
  /-- One of the commands that take an upload back returns. -/
  | undo (i : Nat) (u : Undo)
  /-- It fails. -/
  | undoFails (i : Nat) (u : Undo)
  /-- The board of a session is saved. -/
  | edit (session : Session) (snapshot : Buffer)
  /-- Classes end, students enroll, boards are opened. -/
  | change (sessions : Table Session BoardSession) (enrolled : List (CourseId × UserId)) (writable : Session → Bool)

/-! ## Text -/

/-- `toString('utf8')`. -/
def toText (b : Buffer) : List UInt16 := Utf8.decode (b.map .byte)

/-- `Buffer.from(s, 'utf8')`. -/
def ofText (s : String) : Buffer := s.toList.flatMap String.utf8EncodeChar

/-- `toString('ascii')`, which drops the eighth bit. -/
def ascii (b : Buffer) : List Char := b.map fun x => Char.ofNat (x.toNat % 0x80)

/-! ## Checks -/

def verifiedImageType (toLowerCase : String → String) (file : UploadedBlob) : Option String :=
  let bytes := file.buffer
  let type := toLowerCase file.mimetype
  if type = "image/png" ∧ bytes.take 8 = [137, 80, 78, 71, 13, 10, 26, 10] then some "image/png"
  else if type = "image/jpeg" ∧ bytes.take 3 = [0xff, 0xd8, 0xff] then some "image/jpeg"
  else if type = "image/gif" ∧ (ascii (bytes.take 6) = "GIF87a".toList ∨ ascii (bytes.take 6) = "GIF89a".toList) then
    some "image/gif"
  else if type = "image/webp" ∧ 12 ≤ bytes.length ∧ ascii (bytes.take 4) = "RIFF".toList ∧
      ascii ((bytes.drop 8).take 4) = "WEBP".toList then
    some "image/webp"
  else none

section Calls

variable {Session : Type} [DecidableEq Session]

def assertParticipant (s : Store Session) (user : JwtPayload) (session : Session) : Except HttpError BoardSession := do
  let row ← orThrow (s.sessions.get session) (.notFound "Session not found")
  ensure ((user.role = .instructor ∧ row.course.instructorId = some user.sub) ∨
      (user.role = .orgAdmin ∧ row.course.organizationId = user.organizationId) ∨
      (user.role = .student ∧ (row.course.id, user.sub) ∈ s.enrolled))
    (.forbidden "Not a participant of this session")
  return row

def checkUpload (host : Host Session) (s : Store Session) (user : JwtPayload) (session : Session)
    (file : Option UploadedBlob) : Except HttpError (Upload Session) := do
  let file ← orThrow file (.badRequest "No image received")
  ensure (file.size ≤ maxAssetBytes) (.badRequest "Board image is larger than 20 MB")
  let contentType ← orThrow (verifiedImageType host.toLowerCase file)
    (.badRequest "Use a PNG, JPEG, GIF, or WebP image")
  let row ← assertParticipant s user session
  ensure (row.status ≠ .ended) (.forbidden "Cannot add images to an ended class")
  ensure (¬(user.role = .student ∧ s.writable session = false))
    (.forbidden "The instructor has not opened the board for student edits")
  return ⟨session, file.size, file.buffer, contentType⟩

def checkServe (host : Host Session) (s : Store Session) (user : JwtPayload) (session : Session) :
    Except HttpError Unit :=
  match user.recorder with
  | some recorder =>
    ensure (recorder.sessionId = host.name session) (.forbidden "Recorder cannot access another session")
  | none => (assertParticipant s user session).map fun _ => ()

/-! ## Writes -/

namespace Store

def put (host : Host Session) (s : Store Session) (key : String) (body : Buffer) : Store Session :=
  { s with objects := Function.update s.objects (host.place key) (some body) }

def delete (host : Host Session) (s : Store Session) (key : String) : Store Session :=
  { s with objects := Function.update s.objects (host.place key) none }

def get (host : Host Session) (s : Store Session) (key : String) : Option Buffer := s.objects (host.place key)

def sadd (s : Store Session) (session : Session) (id : AssetId) : Store Session :=
  { s with index := Function.update s.index session ((s.index session).insert id) }

def srem (s : Store Session) (session : Session) (id : AssetId) : Store Session :=
  { s with index := Function.update s.index session ((s.index session).filter (· ≠ id)) }

def incrby (s : Store Session) (session : Session) (count bytes : Int) : Store Session :=
  { s with
    count := Function.update s.count session (s.count session + count)
    bytes := Function.update s.bytes session (s.bytes session + bytes) }

/-- The script that reserves room for an image. -/
def reserve (s : Store Session) (session : Session) (size : Nat) : Store Session × Bool :=
  let s' := s.incrby session 1 size
  if (maxSessionAssets : Int) < s'.count session ∨ (maxSessionAssetBytes : Int) < s'.bytes session then
    (s'.incrby session (-1) (-size), false)
  else (s', true)

def takeBack (host : Host Session) (s : Store Session) (u : Upload Session) (id : AssetId) : Undo → Store Session
  | .asset => s.delete host (assetKey id)
  | .type => s.delete host (typeKey id)
  | .session => s.delete host (sessionKey id)
  | .index => s.srem u.session id
  | .count => s.incrby u.session (-1) 0
  | .bytes => s.incrby u.session 0 (-u.size)

/-- The session an asset is bound to, as its name is read. -/
def owner (host : Host Session) (s : Store Session) (id : AssetId) : Option (List UInt16) :=
  (s.get host (sessionKey id)).map toText

end Store

/-! ## Steps -/

def allUndos : List Undo := [.asset, .type, .session, .index, .count, .bytes]

/-- The write that a stage makes, and the next stage. -/
def Stage.write (host : Host Session) (s : Store Session) : Stage Session → Store Session × Option (Stage Session)
  | .sadd u id => (s.sadd u.session id, some (.putAsset u id))
  | .putAsset u id => (s.put host (assetKey id) u.buffer, some (.putType u id))
  | .putType u id => (s.put host (typeKey id) (ofText u.contentType), some (.putSession u id))
  | .putSession u id => (s.put host (sessionKey id) (ofText (host.name u.session)), none)
  | .claim session id => (s.sadd session id, some (.bind session id))
  | .bind session id => (s.put host (sessionKey id) (ofText (host.name session)), none)
  | stage => (s, some stage)

/-- What an upload that fails has to take back, once it has its reservation. -/
def Stage.onFailure : Stage Session → Option (Stage Session)
  | .sadd u id | .putAsset u id | .putType u id | .putSession u id => some (.undo u id allUndos)
  | _ => none

/-- The image that is there once a stage is done. -/
def Stage.stores : Stage Session → List (AssetId × Upload Session)
  | .putSession u id => [(id, u)]
  | _ => []

/-- An upload goes on to take back what is left; then it rejects. -/
def remaining (u : Upload Session) (id : AssetId) (left : List Undo) : Option (Stage Session) :=
  if left = [] then none else some (.undo u id left)

variable (host : Host Session)

def resume (s : State Session) (i : Nat) (id : AssetId) : Stage Session → Option (State Session)
  | .reserve u =>
    match s.toStore.reserve u.session u.size with
    | (store, false) => some { s with toStore := store, tasks := s.tasks.put i none }
    | (store, true) =>
      if id ∈ s.drawn then none
      else some { s with toStore := store, tasks := s.tasks.put i (some (.sadd u id)), drawn := id :: s.drawn }
  | .undo .. => none
  | .size session id =>
    let next := (s.get host (assetKey id)).map fun _ => .owner session id
    some { s with tasks := s.tasks.put i next }
  | .owner session id =>
    let next := if s.owner host id = none then some (.claim session id) else none
    some { s with tasks := s.tasks.put i next }
  | stage =>
    let (store, next) := stage.write host s.toStore
    some { s with toStore := store, tasks := s.tasks.put i next, stored := stage.stores ++ s.stored }

def step (s : State Session) : Event Session → Option (State Session)
  | .upload i user session file =>
    if (s.tasks.get i).isSome then none
    else
      match checkUpload host s.toStore user session file with
      | .error _ => some s
      | .ok u => some { s with tasks := s.tasks.put i (some (.reserve u)) }
  | .serve i user session id =>
    if (s.tasks.get i).isSome then none
    else
      match checkServe host s.toStore user session with
      | .error _ => some s
      | .ok _ => some { s with tasks := s.tasks.put i (some (.size session id)) }
  | .resume i id => (s.tasks.get i).bind fun stage => resume host s i id stage
  | .fail i made =>
    match s.tasks.get i with
    | none | some (.undo ..) => none
    | some stage =>
      let store := if made then (stage.write host s.toStore).1 else s.toStore
      some { s with toStore := store, tasks := s.tasks.put i stage.onFailure }
  | .undo i u =>
    match s.tasks.get i with
    | some (.undo upload id left) =>
      if u ∈ left then
        some { s with
          toStore := s.toStore.takeBack host upload id u
          tasks := s.tasks.put i (remaining upload id (left.erase u)) }
      else none
    | _ => none
  | .undoFails i u =>
    match s.tasks.get i with
    | some (.undo upload id left) =>
      if u ∈ left then some { s with tasks := s.tasks.put i (remaining upload id (left.erase u)) } else none
    | _ => none
  | .edit session snapshot => some { s with toStore := s.toStore.put host (boardKey (host.name session)) snapshot }
  | .change sessions enrolled writable =>
    some { s with sessions := sessions, enrolled := enrolled, writable := writable }

end Calls

namespace Example

/-- Two sessions, `false` and `true`. -/
def host : Host Bool where
  name b := if b then "evening" else "morning"
  name_inj a b := by revert a b; decide
  place := id
  toLowerCase := id
  applyUpdate b := if b = [1] then some [some "/api/files/board-asset/evening/0e0fd7d6-3380-4b61-9978-414fa22d9e90"]
    else some []
  pathname := some

def asset : AssetId := "0e0fd7d6-3380-4b61-9978-414fa22d9e90"

def course : CourseRef := ⟨"c1", some "yusuf", none, none⟩

def live : BoardSession := ⟨.live, none, course⟩

def ended : BoardSession := ⟨.ended, some 0, course⟩

def start (morning evening : BoardSession) : State Bool where
  sessions := (Table.empty.insert false morning).insert true evening
  enrolled := []
  writable _ := false
  objects _ := none
  index _ := []
  count _ := 0
  bytes _ := 0
  retry := .empty
  cursor := none
  removals := []
  tasks := .empty
  drawn := []
  stored := []

def yusuf : JwtPayload := ⟨"yusuf", .instructor, "Yusuf", none, none, none⟩

def png : UploadedBlob := ⟨[137, 80, 78, 71, 13, 10, 26, 10], "image/png", 8⟩

end Example

end Livetich.Board.Assets
