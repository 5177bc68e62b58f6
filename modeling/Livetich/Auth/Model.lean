/-
Accounts: their status, which the guard, the doors and the gateways read, and what the guard's cache
keeps of them.
-/
import Livetich.Model

namespace Livetich.Auth

inductive UserStatus
  | active
  | disabled
  deriving DecidableEq

structure AccountState where
  status : UserStatus
  emailVerified : Bool
  deriving DecidableEq

inductive HttpError
  | unauthorized (message : String)
  | forbidden (message : String)
  | badRequest (message : String)
  | notFound (message : String)
  | conflict (message : String)
  deriving DecidableEq

abbrev Result (α : Type) := Except HttpError α

end Livetich.Auth
