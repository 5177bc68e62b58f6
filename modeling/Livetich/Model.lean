/-
The records the gateways and services share: token claims, roles, sessions with the course fields
the gateways select, and the room users shown to a class. Identifiers are the opaque strings the
database hands out; fields that no modelled function reads are left out.
-/
import Mathlib.Tactic.Common

namespace Livetich

abbrev UserId := String
abbrev SessionId := String
abbrev CourseId := String
abbrev OrganizationId := String
abbrev SocketId := String

/-- A table of links, such as the enrolments, is searched by comparing the ids. -/
instance decidableLink (link : String × String) (links : List (String × String)) : Decidable (link ∈ links) :=
  inferInstance

inductive Role
  | instructor
  | student
  | orgAdmin
  deriving DecidableEq

inductive SessionStatus
  | scheduled
  | live
  | ended
  deriving DecidableEq

/-- The claim of a recorder token: the one session it may watch. -/
structure RecorderClaim where
  sessionId : SessionId
  recordingId : String
  deriving DecidableEq

/-- The claim of a token minted for one forwarded preview. -/
structure PreviewClaim where
  sessionId : SessionId
  port : Nat
  deriving DecidableEq

/-- The claims of an access token. -/
structure JwtPayload where
  sub : UserId
  role : Role
  name : String
  organizationId : Option OrganizationId
  recorder : Option RecorderClaim
  preview : Option PreviewClaim
  deriving DecidableEq

structure RoomUser where
  userId : UserId
  name : String
  role : Role
  deriving DecidableEq

/-- The course fields a gateway selects with a session. -/
structure CourseRef where
  id : CourseId
  instructorId : Option UserId
  organizationId : Option OrganizationId
  /-- The program's own pack list; `none` when the column holds no array. -/
  pluginKeys : Option (List String)
  deriving DecidableEq

structure LiveSession where
  id : SessionId
  status : SessionStatus
  course : CourseRef
  deriving DecidableEq

/-! ## Who acts as the host of a room -/

/-- `RoomGateway.actingRole`: a teach-mode admin acts as the instructor. -/
def actingRole (user : JwtPayload) (teaching : Bool) : Role :=
  if teaching then .instructor else user.role

/-- `RoomGateway.roomUser`. -/
def roomUser (user : JwtPayload) (teaching : Bool) : RoomUser :=
  ⟨user.sub, user.name, actingRole user teaching⟩

/-- The role test `ownedSession` makes before it asks the database. -/
def mayHost (user : JwtPayload) (teaching : Bool) : Bool :=
  user.role == .instructor || (user.role == .orgAdmin && teaching)

/-- `RoomGateway.ownedSession` once the session row is read: an instructor must own the course, a
teach-mode admin must be of its organization. -/
def ownedSession (user : JwtPayload) (session : Option LiveSession) : Option LiveSession :=
  session.filter fun s =>
    if user.role == .instructor then s.course.instructorId == some user.sub
    else s.course.organizationId == user.organizationId

end Livetich
